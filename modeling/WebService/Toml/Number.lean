import WebService.Json.Value
import WebService.Json.Reader

/-!
Numbers in TOML documents: integers of 64 bits, which may also be hexadecimal, octal or binary, and
floating-point numbers. Single underscores may stand between digits.
-/
namespace WebService.Toml

open Number (natOfDigits)

/-- One digit or more, without the underscores between them. -/
def readDigits (isDigit : Char → Bool) : List Char → Option (List Char × List Char)
  | [] => none
  | c :: cs =>
    if !isDigit c then none
    else match cs with
      | [] => some ([c], [])
      | d :: rest =>
        if d = '_' then do
          let (more, rest) ← readDigits isDigit rest
          return (c :: more, rest)
        else if isDigit d then do
          let (more, rest) ← readDigits isDigit (d :: rest)
          return (c :: more, rest)
        else some ([c], d :: rest)

/-- Decimal digits of which only a lone one may be zero. -/
def readWhole (cs : List Char) : Option (List Char × List Char) :=
  match cs with
  | '0' :: rest => some (['0'], rest)
  | _ => readDigits Char.isDigit cs

/-- The value of a hexadecimal digit below `base`. -/
def digitBelow? (base : Nat) (c : Char) : Option Nat := (Json.hexValue? c).filter (· < base)

def radixOf? (c : Char) : Option Nat :=
  if c = 'x' then some 16 else if c = 'o' then some 8 else if c = 'b' then some 2 else none

def integer? (value : Int) : Option Int :=
  if Number.minInt64 ≤ value && value ≤ Number.maxInt64 then some value else none

/-- The digits of an integer with another base than ten. -/
def readRadix (base : Nat) (cs : List Char) : Option (Int × List Char) := do
  let (ds, rest) ← readDigits (fun c => (digitBelow? base c).isSome) cs
  let value := ds.foldl (fun n c => base * n + (digitBelow? base c).getD 0) 0
  return (← integer? value, rest)

/-- The exponent behind its mark. -/
def readPower (cs : List Char) : Option (Int × List Char) :=
  match cs with
  | '-' :: rest =>
    (readDigits Char.isDigit rest).map fun (ds, rest) => (-(natOfDigits ds : Int), rest)
  | '+' :: rest => (readDigits Char.isDigit rest).map fun (ds, rest) => (natOfDigits ds, rest)
  | _ => (readDigits Char.isDigit cs).map fun (ds, rest) => (natOfDigits ds, rest)

/-- A floating-point number of these digits; only a negative one may be too large. -/
def real? (negative : Bool) (ds : List Char) (exponent : Int) : Option Number.Binary :=
  match Number.double.ofDecimal negative (natOfDigits ds) exponent with
  | .infinite false => none
  | x => some x

/-- The part of a number behind its digits and its fraction, which has `places` digits. -/
def readScale (negative : Bool) (ds : List Char) (places : Nat) (cs : List Char) :
    Option (Number.Binary × List Char) :=
  match cs with
  | c :: rest =>
    if c = 'e' || c = 'E' then do
      let (power, rest) ← readPower rest
      return (← real? negative ds (power - places), rest)
    else (real? negative ds (-(places : Int))).map (·, cs)
  | [] => (real? negative ds (-(places : Int))).map (·, [])

/-- A decimal number without its sign. -/
def readDecimal (negative : Bool) (cs : List Char) : Option (Json.Number × List Char) := do
  let (ds, rest) ← readWhole cs
  match rest with
  | '.' :: more =>
    let (fraction, more) ← readDigits Char.isDigit more
    let (x, rest) ← readScale negative (ds ++ fraction) fraction.length more
    return (.real x, rest)
  | 'e' :: _ | 'E' :: _ =>
    let (x, rest) ← readScale negative ds 0 rest
    return (.real x, rest)
  | _ =>
    let magnitude : Int := natOfDigits ds
    return (.whole (← integer? (if negative then -magnitude else magnitude)), rest)

/-- A decimal number or one of the words `inf` and `nan`, behind its sign. -/
def readUnsigned (negative : Bool) (cs : List Char) : Option (Json.Number × List Char) :=
  match cs with
  | 'i' :: 'n' :: 'f' :: rest => some (.real (.infinite negative), rest)
  | 'n' :: 'a' :: 'n' :: rest => some (.real (.nan negative), rest)
  | _ => readDecimal negative cs

def readNumber (cs : List Char) : Option (Json.Number × List Char) :=
  match cs with
  | '+' :: rest => readUnsigned false rest
  | '-' :: rest => readUnsigned true rest
  | '0' :: mark :: rest =>
    match radixOf? mark with
    | some base => (readRadix base rest).map fun (value, rest) => (.whole value, rest)
    | none => readUnsigned false cs
  | _ => readUnsigned false cs

end WebService.Toml
