import WebService.Number.Binary

/-!
The decimal numeral that stands for a floating-point number: the fewest digits that read back, and
the nearest such numeral where several have that many.
-/
namespace WebService.Number

/-- The numeral `digits * 10 ^ exponent`. -/
structure Decimal where
  digits : Nat
  exponent : Int
deriving DecidableEq, Repr, Inhabited

/-- The digits of a natural number, most significant first. -/
def digitsOf (n : Nat) : List Char := Nat.toDigits 10 n

namespace Decimal

/-- Trailing zeros move into the exponent; `fuel` bounds their number. -/
def trim : Nat → Decimal → Decimal
  | 0, d => d
  | fuel + 1, d =>
    if d.digits ≠ 0 && d.digits % 10 = 0 then trim fuel ⟨d.digits / 10, d.exponent + 1⟩ else d

/-- `10 ^ exponent` as a ratio of natural numbers. -/
def power (exponent : Int) : Nat × Nat := (Nat.pow 10 exponent.toNat, Nat.pow 10 (-exponent).toNat)

end Decimal

/-- The greatest `k` with `10 ^ k ≤ num / den`, for positive arguments. -/
def log10 (num den : Nat) : Int :=
  let guess : Int := ((digitsOf num).length : Int) - (digitsOf den).length
  let (n, d) := Decimal.power guess
  if n * den ≤ num * d then guess else guess - 1

/-- The reals that round to a finite nonzero number, as a range of ratios over one denominator. -/
structure Interval where
  low : Nat
  middle : Nat
  high : Nat
  denominator : Nat
  closed : Bool

/-- Half a unit lies on either side, but only a quarter below the least mantissa of a binade. -/
def Interval.around (f : Format) (mantissa : Nat) (exponent : Int) : Interval :=
  let (n, d) := Binary.ratio 1 exponent
  let below := if mantissa = Nat.pow 2 (f.precision - 1) && f.lowest < exponent then 1 else 2
  { low := (4 * mantissa - below) * n
    middle := 4 * mantissa * n
    high := (4 * mantissa + 2) * n
    denominator := 4 * d
    closed := mantissa % 2 = 0 }

namespace Interval

/-- Whether `digits * 10 ^ exponent` lies in the interval. -/
def contains (i : Interval) (d : Decimal) : Bool :=
  let (n, m) := Decimal.power d.exponent
  let value := d.digits * n * i.denominator
  if i.closed then i.low * m ≤ value && value ≤ i.high * m
  else i.low * m < value && value < i.high * m

/-- How far a numeral is from the middle, over a denominator that its exponent fixes. -/
def distance (i : Interval) (d : Decimal) : Nat :=
  let (n, m) := Decimal.power d.exponent
  let value := d.digits * n * i.denominator
  let middle := i.middle * m
  if value < middle then middle - value else value - middle

/-- The better of the two numerals of a given exponent next to the middle, if either is inside. -/
def nearest? (i : Interval) (exponent : Int) : Option Decimal :=
  let (n, m) := Decimal.power exponent
  let floor := i.middle * m / (n * i.denominator)
  let lower : Decimal := ⟨floor, exponent⟩
  let upper : Decimal := ⟨floor + 1, exponent⟩
  match i.contains lower, i.contains upper with
  | true, true =>
    if i.distance lower < i.distance upper then some lower
    else if i.distance upper < i.distance lower then some upper
    else some (if floor % 2 = 0 then lower else upper)
  | true, false => some lower
  | false, true => some upper
  | false, false => none

end Interval

/-- The shortest numeral of a finite magnitude; seventeen digits always read back. -/
def shortest (f : Format) (mantissa : Nat) (exponent : Int) : Decimal :=
  if mantissa = 0 then ⟨0, 0⟩
  else
    let interval := Interval.around f mantissa exponent
    let top := log10 interval.middle interval.denominator
    let found := (List.range 17).findSome? fun (count : Nat) => interval.nearest? (top - count)
    (found.getD ⟨mantissa, exponent⟩).trim 20

end WebService.Number
