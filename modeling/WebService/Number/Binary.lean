/-!
Binary floating-point numbers as sign, mantissa and exponent, rounded from exact ratios.
-/
namespace WebService.Number

/-- A floating-point format: mantissas below `2 ^ precision`, exponents from `lowest` to
`highest`. -/
structure Format where
  precision : Nat
  lowest : Int
  highest : Int
deriving DecidableEq, Repr

/-- The 64-bit format. -/
def double : Format := ⟨53, -1074, 971⟩

/-- The 32-bit format. -/
def single : Format := ⟨24, -149, 104⟩

/-- A floating-point number; a finite one has the value `± mantissa * 2 ^ exponent`. -/
inductive Binary where
  | nan (negative : Bool)
  | infinite (negative : Bool)
  | finite (negative : Bool) (mantissa : Nat) (exponent : Int)
deriving DecidableEq, Repr, Inhabited

/-- `num / den` rounded to the nearest natural number, a tie to the even one. -/
def roundHalfEven (num den : Nat) : Nat :=
  let quotient := num / den
  let twice := 2 * (num % den)
  if twice < den then quotient
  else if den < twice then quotient + 1
  else if quotient % 2 = 0 then quotient else quotient + 1

/-- `num / (den * 2 ^ exponent)` as a ratio of natural numbers. -/
def scaleDown (num den : Nat) (exponent : Int) : Nat × Nat :=
  (num * Nat.pow 2 (-exponent).toNat, den * Nat.pow 2 exponent.toNat)

namespace Format

variable (f : Format)

def zero (negative : Bool) : Binary := .finite negative 0 f.lowest

/-- The exponent at which `num / den` has a mantissa of full precision, or `lowest` below that. -/
def exponentFor (num den : Nat) : Int :=
  let guess : Int := (num.log2 : Int) - den.log2 - f.precision
  let (n, d) := scaleDown num den guess
  max (if n / d < Nat.pow 2 f.precision then guess else guess + 1) f.lowest

/-- The number of the format nearest to `± num / den`, a tie to the even mantissa. -/
def round (negative : Bool) (num den : Nat) : Binary :=
  if num = 0 then f.zero negative
  else
    let exponent := f.exponentFor num den
    let (n, d) := scaleDown num den exponent
    let mantissa := roundHalfEven n d
    let (mantissa, exponent) :=
      if mantissa = Nat.pow 2 f.precision then (Nat.pow 2 (f.precision - 1), exponent + 1)
      else (mantissa, exponent)
    if f.highest < exponent then .infinite negative
    else .finite negative mantissa exponent

/-- The number nearest to an integer. -/
def ofInt (i : Int) : Binary := f.round (i < 0) i.natAbs 1

/-- The number nearest to `± digits * 10 ^ exponent`. -/
def ofDecimal (negative : Bool) (digits : Nat) (exponent : Int) : Binary :=
  let size : Int := (Nat.toDigits 10 digits).length + exponent
  if digits = 0 || size < -400 then f.zero negative
  else if 400 < size then .infinite negative
  else f.round negative (digits * Nat.pow 10 exponent.toNat) (Nat.pow 10 (-exponent).toNat)

end Format

namespace Binary

def isNegative : Binary → Bool
  | nan negative | infinite negative | finite negative _ _ => negative

def isFinite : Binary → Bool
  | finite .. => true
  | _ => false

def isZero : Binary → Bool
  | finite _ mantissa _ => mantissa = 0
  | _ => false

def isInfinite : Binary → Bool
  | infinite _ => true
  | _ => false

def neg : Binary → Binary
  | nan negative => nan !negative
  | infinite negative => infinite !negative
  | finite negative mantissa exponent => finite (!negative) mantissa exponent

/-- The magnitude of a finite number as an exact ratio. -/
def ratio (mantissa : Nat) (exponent : Int) : Nat × Nat :=
  (mantissa * Nat.pow 2 exponent.toNat, Nat.pow 2 (-exponent).toNat)

/-- The product of a finite number and a positive one, rounded once. -/
def scale (f : Format) (x factor : Binary) : Binary :=
  match x, factor with
  | finite negative m e, finite _ m' e' =>
    let (n, d) := ratio m e
    let (n', d') := ratio m' e'
    f.round negative (n * n') (d * d')
  | other, _ => other

/-- The quotient of a finite number and a positive one, rounded once. -/
def unscale (f : Format) (x factor : Binary) : Binary :=
  match x, factor with
  | finite negative m e, finite _ m' e' =>
    let (n, d) := ratio m e
    let (n', d') := ratio m' e'
    f.round negative (n * d') (d * n')
  | other, _ => other

/-- A finite number rounded to the nearest integer, a half away from zero. -/
def roundAway (negative : Bool) (mantissa : Nat) (exponent : Int) : Int :=
  let (n, d) := ratio mantissa exponent
  let magnitude : Nat := (2 * n + d) / (2 * d)
  if negative then -(magnitude : Int) else magnitude

/-- The rank of a number in the total order: negative numbers rank the other way round. -/
def rank (f : Format) : Binary → Int
  | nan negative => signed negative (Nat.pow 2 f.precision * ((f.highest - f.lowest).toNat + 4))
  | infinite negative =>
    signed negative (Nat.pow 2 f.precision * ((f.highest - f.lowest).toNat + 3))
  | finite negative mantissa exponent =>
    signed negative (Nat.pow 2 f.precision * (exponent - f.lowest).toNat + mantissa)
where
  /-- Magnitudes of negative numbers come first, the largest of them foremost. -/
  signed (negative : Bool) (magnitude : Nat) : Int :=
    if negative then -(magnitude : Int) - 1 else magnitude

/-- The number with the given 64-bit pattern. -/
def ofBits (bits : Nat) : Binary :=
  let negative : Bool := bits / Nat.pow 2 63 % 2 = 1
  let field : Nat := bits / Nat.pow 2 52 % Nat.pow 2 11
  let fraction : Nat := bits % Nat.pow 2 52
  if field = 2047 then if fraction = 0 then infinite negative else nan negative
  else if field = 0 then finite negative fraction (-1074)
  else finite negative (fraction + Nat.pow 2 52) ((field : Int) - 1075)

/-- The 64-bit pattern of a number; every not-a-number has the quiet pattern. -/
def toBits (x : Binary) : Nat :=
  (if x.isNegative then Nat.pow 2 63 else 0) +
    match x with
    | nan _ => 2047 * Nat.pow 2 52 + Nat.pow 2 51
    | infinite _ => 2047 * Nat.pow 2 52
    | finite _ mantissa exponent =>
      if mantissa < Nat.pow 2 52 then mantissa
      else (exponent + 1075).toNat * Nat.pow 2 52 + (mantissa - Nat.pow 2 52)

end Binary

end WebService.Number
