import WebService.Number.Shortest

/-!
How numbers are written: positional text, the exponent form of data formats, and fixed places.
-/
namespace WebService.Number

def intText (i : Int) : List Char :=
  if i < 0 then '-' :: digitsOf i.natAbs else digitsOf i.natAbs

namespace Decimal

/-- Where the point stands, counted from the first digit. -/
def point (d : Decimal) : Int := (digitsOf d.digits).length + d.exponent

/-- Positional text; a whole number gets the given fraction part, which may be empty. -/
def positional (d : Decimal) (fraction : List Char) : List Char :=
  let ds := digitsOf d.digits
  if 0 ≤ d.exponent then ds ++ List.replicate d.exponent.toNat '0' ++ fraction
  else if 0 < d.point then ds.take d.point.toNat ++ '.' :: ds.drop d.point.toNat
  else '0' :: '.' :: (List.replicate (-d.point).toNat '0' ++ ds)

/-- One digit before the point and a signed power of ten. -/
def scientific (d : Decimal) : List Char :=
  let mantissa := match digitsOf d.digits with
    | [] => []
    | [c] => [c]
    | c :: cs => c :: '.' :: cs
  let power := d.point - 1
  mantissa ++ 'e' :: (if power < 0 then '-' else '+') :: digitsOf power.natAbs

end Decimal

/-- Signed text of a number, given how a finite magnitude and the three special values are
written. -/
def signedText (negative : Bool) (magnitude : List Char) : List Char :=
  if negative then '-' :: magnitude else magnitude

/-- Positional text without an exponent, such as `0.5`, `-0`, `inf` and `NaN`. -/
def plainText (f : Format) : Binary → List Char
  | .nan _ => "NaN".toList
  | .infinite negative => signedText negative "inf".toList
  | .finite negative m e => signedText negative ((shortest f m e).positional [])

/-- As `plainText`, but a whole number keeps the fraction `.0`. -/
def pointedText (f : Format) : Binary → List Char
  | .finite negative m e => signedText negative ((shortest f m e).positional ".0".toList)
  | other => plainText f other

/-- The data form: positional with a fraction when the point stands from 4 places before to 16
places after the first digit, an exponent otherwise. -/
def dataText (f : Format) : Binary → List Char
  | .finite negative m e =>
    let d := shortest f m e
    signedText negative
      (if -5 < d.point && d.point ≤ 16 then d.positional ".0".toList else d.scientific)
  | _ => "null".toList

/-- A ratio with a fixed number of places, a half going to the even neighbour. -/
def fixedText (places num den : Nat) : List Char :=
  let ds := digitsOf (roundHalfEven (num * Nat.pow 10 places) den)
  let ds := List.replicate (places + 1 - ds.length) '0' ++ ds
  ds.take (ds.length - places) ++ '.' :: ds.drop (ds.length - places)

end WebService.Number
