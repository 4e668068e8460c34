import WebService.Calendar.Reader
import WebService.Calendar.Writer

/-!
Dates and times in TOML documents. They are read as text in a standard form: `T` between date and
time, nine digits of a fraction at most and no zeros at its end. Those told by a text, and not by a
value of their own, are read more loosely.
-/
namespace WebService.Toml

open Calendar (padded scanChar scanDigits scanFraction)

/-- A number of two digits, up to `most`, as text. -/
def readPair? (most : Nat) (cs : List Char) : Option (List Char × List Char) := do
  let (n, rest) ← scanDigits 2 2 cs
  if n ≤ most then some (padded 2 n, rest) else none

def readDate? (cs : List Char) : Option (List Char × List Char) := do
  let (year, cs) ← scanDigits 4 4 cs
  let (month, cs) ← scanDigits 2 2 (← scanChar '-' cs)
  let (day, cs) ← scanDigits 2 2 (← scanChar '-' cs)
  let date ← Calendar.Date.make? year month day
  return (Calendar.writeDate date, cs)

/-- The fraction of a second as text. -/
def fractionText (nanosecond : Nat) : List Char :=
  if nanosecond = 0 then []
  else '.' :: ((padded 9 nanosecond).reverse.dropWhile (· = '0')).reverse

/-- A time with hours up to `most`. -/
def readTime? (most : Nat) (cs : List Char) : Option (List Char × List Char) := do
  let (hour, cs) ← readPair? most cs
  let (minute, cs) ← readPair? 59 (← scanChar ':' cs)
  let (second, cs) ← readPair? 60 (← scanChar ':' cs)
  let (nanosecond, cs) := (scanFraction cs).getD (0, cs)
  return (hour ++ ':' :: minute ++ ':' :: second ++ fractionText nanosecond, cs)

/-- An offset from universal time; one of nothing is positive. -/
def readOffset? : List Char → Option (List Char × List Char)
  | [] => none
  | c :: cs =>
    if c = 'Z' || c = 'z' then some (['Z'], cs)
    else if c = '+' || c = '-' then do
      let (hours, cs) ← readPair? 23 cs
      let (minutes, cs) ← readPair? 59 (← scanChar ':' cs)
      let sign := if hours = ['0', '0'] && minutes = ['0', '0'] then '+' else c
      return (sign :: (hours ++ ':' :: minutes), cs)
    else none

/-- The time behind a date, with its offset if it has one. -/
def readTimeOfDay? (cs : List Char) : Option (List Char × List Char) :=
  match cs with
  | [] => none
  | c :: rest =>
    if c = 'T' || c = 't' || c = ' ' then do
      let (time, rest) ← readTime? 23 rest
      let (offset, rest) := (readOffset? rest).getD ([], rest)
      return (time ++ offset, rest)
    else none

/-- A date, a date with a time, or a time. -/
def readMoment? (cs : List Char) : Option (String × List Char) := do
  match readDate? cs with
  | some (date, rest) =>
    match readTimeOfDay? rest with
    | some (time, rest) => return (String.ofList (date ++ 'T' :: time), rest)
    | none => return (String.ofList date, rest)
  | none =>
    let (time, rest) ← readTime? 23 cs
    return (String.ofList time, rest)

/-! Moments told by a text -/

/-- An offset of any minutes up to a day in all. -/
def offsetText? : List Char → Option (List Char)
  | [] => some []
  | c :: cs =>
    if (c = 'Z' || c = 'z') && cs.isEmpty then some ['Z']
    else if c = '+' || c = '-' then do
      let (hours, cs) ← scanDigits 2 2 cs
      let (minutes, cs) ← scanDigits 2 2 (← scanChar ':' cs)
      let total := 60 * hours + minutes
      guard (total ≤ 1440 && cs.isEmpty)
      return (if total = 0 then '+' else c) ::
        (padded 2 (total / 60) ++ ':' :: padded 2 (total % 60))
    else none

/-- What stands behind a date: nothing, or a time of up to hour 24 with its offset. -/
def timeOfDayText? : List Char → Option (List Char)
  | [] => some []
  | c :: cs => do
    guard (c = 'T' || c = 't' || c = ' ')
    let (time, rest) ← readTime? 24 cs
    return 'T' :: time ++ (← offsetText? rest)

/-- The standard form of the date or the time that a text tells. -/
def momentText? (s : String) : Option String :=
  match readDate? s.toList with
  | some (date, rest) => (timeOfDayText? rest).map fun time => String.ofList (date ++ time)
  | none =>
    match readTime? 24 s.toList with
    | some (time, []) => some (String.ofList time)
    | _ => none

end WebService.Toml
