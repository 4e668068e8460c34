import WebService.Calendar.Moment
import WebService.Number.Layout

/-!
Dates and times as text. Years outside four digits carry a sign, and fractions of a second have
three, six or nine digits, as many as the nanoseconds need.
-/
namespace WebService.Calendar

open Number (digitsOf)

def padded (width n : Nat) : List Char :=
  let ds := digitsOf n
  List.replicate (width - ds.length) '0' ++ ds

def writeYear (year : Int) : List Char :=
  if 0 ≤ year && year ≤ 9999 then padded 4 year.toNat
  else (if year < 0 then '-' else '+') :: padded 4 year.natAbs

def writeDate (d : Date) : List Char :=
  writeYear d.year ++ '-' :: padded 2 d.month ++ '-' :: padded 2 d.day

def writeFraction (nanosecond : Nat) : List Char :=
  if nanosecond = 0 then []
  else if nanosecond % 1000000 = 0 then '.' :: padded 3 (nanosecond / 1000000)
  else if nanosecond % 1000 = 0 then '.' :: padded 6 (nanosecond / 1000)
  else '.' :: padded 9 nanosecond

/-- The second as it is shown, where a leap second is number 60 or one more than its second. -/
def shownSecond (t : Time) : Nat × Nat :=
  if t.nanosecond < 1000000000 then (t.second, t.nanosecond)
  else (t.second + 1, t.nanosecond - 1000000000)

def writeClock (t : Time) : List Char :=
  padded 2 t.hour ++ ':' :: padded 2 t.minute ++ ':' :: padded 2 (shownSecond t).1

def writeTime (t : Time) : List Char := writeClock t ++ writeFraction (shownSecond t).2

def writeMoment (m : Moment) : List Char := writeDate m.date ++ 'T' :: writeTime m.time

/-- A moment of universal time with the given mark of its offset, `Z` or `+00:00`. -/
def writeUniversal (mark : String) (m : Moment) : List Char := writeMoment m ++ mark.toList

def monthName (month : Nat) : String :=
  match month with
  | 1 => "Jan" | 2 => "Feb" | 3 => "Mar" | 4 => "Apr" | 5 => "May" | 6 => "Jun"
  | 7 => "Jul" | 8 => "Aug" | 9 => "Sep" | 10 => "Oct" | 11 => "Nov" | _ => "Dec"

/-- The form of access logs, such as `06/May/2024:07:08:09 +0000`. The offset of local time is fixed
to zero. -/
def writeLogTime (m : Moment) : List Char :=
  padded 2 m.date.day ++ '/' :: (monthName m.date.month).toList ++ '/' :: writeYear m.date.year
    ++ ':' :: writeClock m.time ++ " +0000".toList

end WebService.Calendar
