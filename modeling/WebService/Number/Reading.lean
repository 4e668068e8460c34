import WebService.Number.Binary

/-!
Reading numbers from text: integers within a range, and decimal fractions.
-/
namespace WebService.Number

def digitValue (c : Char) : Nat := c.toNat - '0'.toNat

/-- The value of a run of decimal digits. -/
def natOfDigits (cs : List Char) : Nat := cs.foldl (fun n c => 10 * n + digitValue c) 0

/-- One digit or more and nothing else. -/
def allDigits (cs : List Char) : Bool := !cs.isEmpty && cs.all Char.isDigit

/-- A natural number of at most `limit`; a plus sign may stand in front. -/
def readNat (limit : Nat) (cs : List Char) : Option Nat :=
  let ds := match cs with
    | '+' :: rest => rest
    | _ => cs
  if allDigits ds then
    let n := natOfDigits ds
    if n ≤ limit then some n else none
  else none

/-- An integer from `lowest` to `highest`; either sign may stand in front. -/
def readInt (lowest highest : Int) (cs : List Char) : Option Int :=
  let (negative, ds) : Bool × List Char := match cs with
    | '+' :: rest => (false, rest)
    | '-' :: rest => (true, rest)
    | _ => (false, cs)
  if allDigits ds then
    let i : Int := if negative then -(natOfDigits ds) else natOfDigits ds
    if lowest ≤ i && i ≤ highest then some i else none
  else none

def maxUInt64 : Nat := 18446744073709551615

def readUInt64 : List Char → Option Nat := readNat maxUInt64

def minInt64 : Int := -9223372036854775808

def maxInt64 : Int := 9223372036854775807

def readInt64 : List Char → Option Int := readInt minInt64 maxInt64

/-- The exponent part of a decimal: empty, or a mark, an optional sign and digits. -/
def readExponent : List Char → Option Int
  | [] => some 0
  | mark :: rest =>
    if mark = 'e' || mark = 'E' then
      match rest with
      | '-' :: ds => if allDigits ds then some (-(natOfDigits ds : Int)) else none
      | '+' :: ds => if allDigits ds then some (natOfDigits ds) else none
      | ds => if allDigits ds then some (natOfDigits ds) else none
    else none

/-- An unsigned decimal: digits with at most one point among them, then an exponent. -/
def readMagnitude (f : Format) (negative : Bool) (cs : List Char) : Option Binary :=
  let whole := cs.takeWhile Char.isDigit
  let rest := cs.dropWhile Char.isDigit
  let (fraction, tail) : List Char × List Char := match rest with
    | '.' :: more => (more.takeWhile Char.isDigit, more.dropWhile Char.isDigit)
    | _ => ([], rest)
  if whole.isEmpty && fraction.isEmpty then none
  else (readExponent tail).map fun exponent =>
    f.ofDecimal negative (natOfDigits (whole ++ fraction)) (exponent - fraction.length)

/-- A decimal with an optional sign, or one of the words for infinity and not-a-number. -/
def readBinary (f : Format) (cs : List Char) : Option Binary :=
  let (negative, body) : Bool × List Char := match cs with
    | '+' :: rest => (false, rest)
    | '-' :: rest => (true, rest)
    | _ => (false, cs)
  let word := body.map Char.toLower
  if word = "inf".toList || word = "infinity".toList then some (.infinite negative)
  else if word = "nan".toList then some (.nan negative)
  else readMagnitude f negative body

end WebService.Number
