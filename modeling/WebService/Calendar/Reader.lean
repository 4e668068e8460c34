import WebService.Calendar.Moment
import WebService.Number.Reading
import WebService.Text.Blank

/-!
Reading dates and times: a moment with an offset, a moment, a date or a time of day, whichever is
the first to fit the text.
-/
namespace WebService.Calendar

open Number (natOfDigits)
open Text (isBlank)

/-- From `least` to `most` digits, as many as there are, and the rest of the text. -/
def scanDigits (least most : Nat) (cs : List Char) : Option (Nat × List Char) :=
  let ds := (cs.take most).takeWhile Char.isDigit
  if ds.length < least then none else some (natOfDigits ds, cs.drop ds.length)

def scanChar (c : Char) : List Char → Option (List Char)
  | [] => none
  | d :: rest => if d = c then some rest else none

/-- A fraction of a second in nanoseconds; digits past the ninth are dropped. -/
def scanFraction : List Char → Option (Nat × List Char)
  | '.' :: cs => do
    let (n, rest) ← scanDigits 1 9 cs
    return (n * Nat.pow 10 (9 - (cs.length - rest.length)), rest.dropWhile Char.isDigit)
  | cs => some (0, cs)

/-- The time of day with these parts; second 60 is a leap second. -/
def makeTime? (hour minute second nanosecond : Nat) : Option Time :=
  if 24 ≤ hour || 60 ≤ minute || 60 < second then none
  else if second = 60 then some ⟨hour, minute, 59, nanosecond + 1000000000⟩
  else some ⟨hour, minute, second, nanosecond⟩

/-- A signed offset of hours and minutes in seconds, or the letter for none. -/
def scanOffset : List Char → Option (Int × List Char)
  | [] => none
  | c :: cs =>
    if c = 'Z' || c = 'z' then some (0, cs)
    else if c = '+' || c = '-' || c = '\u2212' then do
      let (hours, cs) ← scanDigits 2 2 cs
      let cs ← scanChar ':' cs
      let (minutes, cs) ← scanDigits 2 2 cs
      if 60 ≤ minutes || 24 ≤ hours then none
      else
        let seconds : Int := hours * 3600 + minutes * 60
        return (if c = '+' then seconds else -seconds, cs)
    else none

/-- A moment with an offset, taken to universal time. -/
def readOffsetMoment? (cs : List Char) : Option Moment := do
  let (year, cs) ← scanDigits 4 4 cs
  let cs ← scanChar '-' cs
  let (month, cs) ← scanDigits 2 2 cs
  let cs ← scanChar '-' cs
  let (day, cs) ← scanDigits 2 2 cs
  let cs ← match cs with
    | c :: rest => if c = 'T' || c = 't' || c = ' ' then some rest else none
    | [] => none
  let (hour, cs) ← scanDigits 2 2 cs
  let cs ← scanChar ':' cs
  let (minute, cs) ← scanDigits 2 2 cs
  let cs ← scanChar ':' cs
  let (second, cs) ← scanDigits 2 2 cs
  let (nanosecond, cs) ← scanFraction cs
  let (offset, cs) ← scanOffset cs
  if !cs.isEmpty then none
  else
    let date ← Date.make? year month day
    let time ← makeTime? hour minute second nanosecond
    return (Moment.mk date time).shift (-offset)

def skipBlank (cs : List Char) : List Char := cs.dropWhile isBlank

/-- A year: up to four digits, or any number of them after a sign. -/
def scanYear (cs : List Char) : Option (Int × List Char) :=
  match skipBlank cs with
  | '-' :: rest => (scanDigits 1 rest.length rest).map fun (n, rest) => (-(n : Int), rest)
  | '+' :: rest => (scanDigits 1 rest.length rest).map fun (n, rest) => ((n : Int), rest)
  | rest => (scanDigits 1 4 rest).map fun (n, rest) => ((n : Int), rest)

/-- One or two digits after white space. -/
def scanPart (cs : List Char) : Option (Nat × List Char) := scanDigits 1 2 (skipBlank cs)

/-- A separator after white space, and the part behind it. -/
def scanNext (separator : Char) (cs : List Char) : Option (Nat × List Char) := do
  scanPart (← scanChar separator (skipBlank cs))

def scanDate (cs : List Char) : Option (Date × List Char) := do
  let (year, cs) ← scanYear cs
  let (month, cs) ← scanNext '-' cs
  let (day, cs) ← scanNext '-' cs
  let date ← Date.make? year month day
  return (date, skipBlank cs)

/-- Seconds and their fraction behind a colon. -/
def scanSeconds (cs : List Char) : Option (Nat × Nat × List Char) := do
  let (second, cs) ← scanNext ':' cs
  let (nanosecond, cs) ← scanFraction cs
  if 60 < second then none
  else return (second, nanosecond, skipBlank cs)

def readMoment? (cs : List Char) : Option Moment := do
  let (date, cs) ← scanDate cs
  let cs ← scanChar 'T' cs
  let (hour, cs) ← scanPart cs
  let (minute, cs) ← scanNext ':' cs
  let (second, nanosecond, cs) ← scanSeconds cs
  if !cs.isEmpty then none
  else return ⟨date, ← makeTime? hour minute second nanosecond⟩

def readDate? (cs : List Char) : Option Date := do
  let (date, cs) ← scanDate cs
  if cs.isEmpty then some date else none

/-- Hours and minutes, and seconds unless they are left out. -/
def readTime? (cs : List Char) : Option Time := do
  let (hour, cs) ← scanPart cs
  let (minute, cs) ← scanNext ':' cs
  let (second, nanosecond, cs) := (scanSeconds cs).getD (0, 0, cs)
  if !(skipBlank cs).isEmpty then none
  else makeTime? hour minute second nanosecond

/-- The moment that a text stands for: dates are read as their midnight, times as on the epoch. -/
def parse? (s : String) : Option Moment :=
  let cs := s.toList
  (readOffsetMoment? cs).or <|
    (readMoment? cs).or <|
      ((readDate? cs).map fun date => ⟨date, Time.midnight⟩).or <|
        (readTime? cs).map fun time => ⟨Date.epoch, time⟩

end WebService.Calendar
