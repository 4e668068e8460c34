import Mathlib.Order.WithBot
import WebService.Proofs.Number.Rounding

/-!
The total order of floating-point numbers: by sign, then by magnitude. The ranks of the numbers of a
format are in this order.
-/
namespace WebService.Number

variable {f : Format} {x y : Binary}

namespace Binary

/-- The magnitude of a number. Infinity is above all others, and what is no number above that. -/
def magnitude : Binary → WithTop (WithTop ℚ)
  | nan _ => ⊤
  | infinite _ => ((⊤ : WithTop ℚ) : WithTop (WithTop ℚ))
  | finite _ mantissa exponent =>
    (((mantissa * 2 ^ exponent : ℚ) : WithTop ℚ) : WithTop (WithTop ℚ))

/-- The total order. Whatever is negative comes first, the largest magnitudes foremost; so negative
zero comes before zero. -/
def AtMost (x y : Binary) : Prop :=
  match x.isNegative, y.isNegative with
  | true, false => True
  | false, true => False
  | false, false => x.magnitude ≤ y.magnitude
  | true, true => y.magnitude ≤ x.magnitude

theorem AtMost.refl (x : Binary) : x.AtMost x := by
  unfold AtMost
  split <;> simp_all

/-- The rank of the magnitude of a number. -/
def place (f : Format) : Binary → Nat
  | nan _ => 2 ^ f.precision * ((f.highest - f.lowest).toNat + 4)
  | infinite _ => 2 ^ f.precision * ((f.highest - f.lowest).toNat + 3)
  | finite _ mantissa exponent => 2 ^ f.precision * (exponent - f.lowest).toNat + mantissa

theorem rank_eq (x : Binary) :
    x.rank f = if x.isNegative then -(x.place f : Int) - 1 else x.place f := by
  cases x <;> rfl

end Binary

/-- With mantissas that fit, the exponent decides on the place. -/
theorem place_lt_of_exponent_lt {p m : Nat} {a b : Nat} (hm : m < 2 ^ p) (h : a < b) (m' : Nat) :
    2 ^ p * a + m < 2 ^ p * b + m' := by
  have hstep : 2 ^ p * (a + 1) ≤ 2 ^ p * b := Nat.mul_le_mul_left _ h
  rw [Nat.mul_add, Nat.mul_one] at hstep
  omega

/-- With mantissas of full length, the exponent decides on the magnitude. -/
theorem magnitude_lt_of_exponent_lt {p m m' : Nat} {a b : Int} (hp : 0 < p) (hm : m < 2 ^ p)
    (hm' : 2 ^ (p - 1) ≤ m') (h : a < b) : (m * 2 ^ a : ℚ) < m' * 2 ^ b := by
  have hlow : (m : ℚ) < 2 ^ p := by exact_mod_cast hm
  have hhigh : (2 : ℚ) ^ (p - 1) ≤ m' := by exact_mod_cast hm'
  have hpower : (2 : ℚ) ^ p * 2 ^ a = 2 ^ (p - 1) * 2 ^ (a + 1) := by
    rw [← zpow_natCast, ← zpow_natCast, ← zpow_add₀ two_ne_zero, ← zpow_add₀ two_ne_zero]
    congr 1
    omega
  have hstep : (2 : ℚ) ^ (a + 1) ≤ 2 ^ b := zpow_le_zpow_right₀ one_le_two h
  calc (m * 2 ^ a : ℚ) < 2 ^ p * 2 ^ a := by gcongr
    _ = 2 ^ (p - 1) * 2 ^ (a + 1) := hpower
    _ ≤ m' * 2 ^ b := by gcongr

section

variable (hprecision : 0 < f.precision)

include hprecision

theorem place_finite_le_iff {m m' : Nat} {a b : Int} {s s' : Bool}
    (hx : f.Has (.finite s m a)) (hy : f.Has (.finite s' m' b)) :
    (Binary.finite s m a).place f ≤ (Binary.finite s' m' b).place f ↔
      (m * 2 ^ a : ℚ) ≤ m' * 2 ^ b := by
  obtain ⟨hm, hlowest, -, hfull⟩ := hx
  obtain ⟨hm', hlowest', -, hfull'⟩ := hy
  simp only [Binary.place]
  rcases lt_trichotomy a b with h | rfl | h
  · have hplace := place_lt_of_exponent_lt hm
      (show (a - f.lowest).toNat < (b - f.lowest).toNat by omega) m'
    have hmagnitude := magnitude_lt_of_exponent_lt hprecision hm (hfull' (by omega)) h
    exact iff_of_true hplace.le hmagnitude.le
  · have hpower : (0 : ℚ) < 2 ^ a := by positivity
    rw [Nat.add_le_add_iff_left, mul_le_mul_iff_left₀ hpower, Nat.cast_le]
  · have hplace := place_lt_of_exponent_lt hm'
      (show (b - f.lowest).toNat < (a - f.lowest).toNat by omega) m
    have hmagnitude := magnitude_lt_of_exponent_lt hprecision hm' (hfull (by omega)) h
    exact iff_of_false hplace.not_ge hmagnitude.not_ge

omit hprecision in
theorem place_finite_lt {m : Nat} {a : Int} {s : Bool} (h : f.Has (.finite s m a))
    (s' : Bool) : (Binary.finite s m a).place f < (Binary.infinite s').place f := by
  obtain ⟨hm, -, hhighest, -⟩ := h
  have hexponent : (a - f.lowest).toNat < (f.highest - f.lowest).toNat + 3 := by omega
  exact place_lt_of_exponent_lt hm hexponent 0

omit hprecision in
theorem place_infinite_lt (f : Format) (s s' : Bool) :
    (Binary.infinite s).place f < (Binary.nan s').place f :=
  place_lt_of_exponent_lt (Nat.two_pow_pos f.precision) (Nat.lt_succ_self _) 0

/-- Among the numbers of a format the larger magnitude has the higher place. -/
theorem place_le_iff (hx : f.Has x) (hy : f.Has y) :
    x.place f ≤ y.place f ↔ x.magnitude ≤ y.magnitude := by
  have hends := place_infinite_lt f
  cases x with
  | nan s =>
    cases y with
    | nan s' => exact iff_of_true le_rfl le_rfl
    | infinite s' => exact iff_of_false (hends s' s).not_ge (WithTop.coe_lt_top _).not_ge
    | finite s' m' b =>
      have hlt := (place_finite_lt hy true).trans (hends true s)
      exact iff_of_false hlt.not_ge (WithTop.coe_lt_top _).not_ge
  | infinite s =>
    cases y with
    | nan s' => exact iff_of_true (hends s s').le le_top
    | infinite s' => exact iff_of_true le_rfl le_rfl
    | finite s' m' b =>
      have hlt : (Binary.finite s' m' b).magnitude < (⊤ : WithTop ℚ) :=
        WithTop.coe_lt_coe.mpr (WithTop.coe_lt_top _)
      exact iff_of_false (place_finite_lt hy s).not_ge hlt.not_ge
  | finite s m a =>
    cases y with
    | nan s' => exact iff_of_true ((place_finite_lt hx true).trans (hends true s')).le le_top
    | infinite s' =>
      exact iff_of_true (place_finite_lt hx s').le (WithTop.coe_le_coe.mpr le_top)
    | finite s' m' b =>
      rw [place_finite_le_iff hprecision hx hy, Binary.magnitude, Binary.magnitude,
        WithTop.coe_le_coe, WithTop.coe_le_coe]

/-- The ranks of the numbers of a format are in their total order. -/
theorem rank_le_iff (hx : f.Has x) (hy : f.Has y) : x.rank f ≤ y.rank f ↔ x.AtMost y := by
  have hplaces := place_le_iff hprecision hx hy
  have hback := place_le_iff hprecision hy hx
  rw [Binary.rank_eq, Binary.rank_eq, Binary.AtMost]
  cases x.isNegative <;> cases y.isNegative <;>
    simp only [Bool.false_eq_true, if_false, if_true, iff_true, iff_false]
  · rw [← hplaces, Int.ofNat_le]
  · omega
  · omega
  · rw [← hback]
    omega

omit hprecision in
theorem eq_of_place_eq (hx : f.Has x) (hy : f.Has y) (hsign : x.isNegative = y.isNegative)
    (h : x.place f = y.place f) : x = y := by
  have hends := place_infinite_lt f
  cases x with
  | nan s =>
    cases y with
    | nan s' => exact congrArg Binary.nan hsign
    | infinite s' => exact absurd h (hends s' s).ne'
    | finite s' m' b => exact absurd h ((place_finite_lt hy true).trans (hends true s)).ne'
  | infinite s =>
    cases y with
    | nan s' => exact absurd h (hends s s').ne
    | infinite s' => exact congrArg Binary.infinite hsign
    | finite s' m' b => exact absurd h (place_finite_lt hy s).ne'
  | finite s m a =>
    cases y with
    | nan s' => exact absurd h ((place_finite_lt hx true).trans (hends true s')).ne
    | infinite s' => exact absurd h (place_finite_lt hx s').ne
    | finite s' m' b =>
      obtain ⟨hm, hlowest, -⟩ := hx
      obtain ⟨hm', hlowest', -⟩ := hy
      have hexponent : (a - f.lowest).toNat = (b - f.lowest).toNat := by
        rcases lt_trichotomy (a - f.lowest).toNat (b - f.lowest).toNat with hlt | heq | hlt
        · exact absurd h (place_lt_of_exponent_lt hm hlt m').ne
        · exact heq
        · exact absurd h (place_lt_of_exponent_lt hm' hlt m).ne'
      have hmantissa : m = m' := by
        rw [Binary.place, Binary.place, hexponent] at h
        exact Nat.add_left_cancel h
      rw [show s = s' from hsign, hmantissa, show a = b by omega]

/-- Two numbers of a format are at one place of the order only if they are the same. -/
theorem eq_of_atMost (hx : f.Has x) (hy : f.Has y) (h : x.AtMost y) (h' : y.AtMost x) : x = y := by
  have hrank := le_antisymm ((rank_le_iff hprecision hx hy).mpr h)
    ((rank_le_iff hprecision hy hx).mpr h')
  rw [Binary.rank_eq, Binary.rank_eq] at hrank
  cases hsign : x.isNegative <;> cases hsign' : y.isNegative <;>
    simp only [hsign, hsign', if_true, Bool.false_eq_true, if_false] at hrank
  · exact eq_of_place_eq hx hy (hsign.trans hsign'.symm) (by omega)
  · omega
  · omega
  · exact eq_of_place_eq hx hy (hsign.trans hsign'.symm) (by omega)

end

end WebService.Number
