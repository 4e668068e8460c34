import WebService.Calendar.Date

/-!
Times of day and moments. A leap second is the last second of its minute with a full second more of
nanoseconds.
-/
namespace WebService.Calendar

structure Time where
  hour : Nat
  minute : Nat
  second : Nat
  nanosecond : Nat
deriving DecidableEq, Repr, Inhabited

namespace Time

def midnight : Time := ⟨0, 0, 0, 0⟩

def isValid (t : Time) : Bool :=
  t.hour < 24 && t.minute < 60 && t.second < 60 && t.nanosecond < 2000000000

/-- Whole seconds since midnight; a leap second counts with the second before it. -/
def toSeconds (t : Time) : Nat := t.hour * 3600 + t.minute * 60 + t.second

def ofSeconds (seconds nanosecond : Nat) : Time :=
  ⟨seconds / 3600, seconds / 60 % 60, seconds % 60, nanosecond⟩

end Time

structure Moment where
  date : Date
  time : Time
deriving DecidableEq, Repr, Inhabited

namespace Moment

def isValid (m : Moment) : Bool := m.date.isValid && m.time.isValid

/-- Whole seconds since the epoch. -/
def toSeconds (m : Moment) : Int := m.date.toDays * 86400 + m.time.toSeconds

/-- The moment that is a number of seconds from the epoch. -/
def ofSeconds (seconds : Int) (nanosecond : Nat) : Moment :=
  ⟨Date.ofDays (seconds / 86400), Time.ofSeconds (seconds % 86400).toNat nanosecond⟩

/-- The moment some seconds later. -/
def shift (m : Moment) (seconds : Int) : Moment :=
  ofSeconds (m.toSeconds + seconds) m.time.nanosecond

end Moment

end WebService.Calendar
