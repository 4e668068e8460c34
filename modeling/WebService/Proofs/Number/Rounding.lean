import Mathlib.Algebra.Order.Field.Power
import Mathlib.Data.Rat.Floor
import Mathlib.Tactic.FieldSimp
import Mathlib.Tactic.Positivity
import WebService.Number.Reading

/-!
Rounding to a floating-point format gives numbers of the format: their mantissas are as long as
their exponents allow, so that no number has two forms.
-/
namespace WebService.Number

variable {f : Format} {num den : Nat} {x : Binary}

/-- Whether a format has a number. Below full length of the mantissa the exponent is the lowest. -/
def Format.Has (f : Format) : Binary → Prop
  | .finite _ mantissa exponent =>
    mantissa < 2 ^ f.precision ∧ f.lowest ≤ exponent ∧ exponent ≤ f.highest ∧
      (f.lowest < exponent → 2 ^ (f.precision - 1) ≤ mantissa)
  | _ => True

theorem roundHalfEven_bounds (num den : Nat) :
    num / den ≤ roundHalfEven num den ∧ roundHalfEven num den ≤ num / den + 1 := by
  unfold roundHalfEven
  dsimp only
  split_ifs <;> omega

/-! Scaled ratios -/

theorem scaleDown_pos (num : Nat) (hden : 0 < den) (exponent : Int) :
    0 < (scaleDown num den exponent).2 := by
  simp only [scaleDown, Nat.pow_eq]
  positivity

theorem ratio_scaleDown (num den : Nat) (exponent : Int) :
    ((scaleDown num den exponent).1 : ℚ) / (scaleDown num den exponent).2 =
      num / den / 2 ^ exponent := by
  have hparts : exponent = exponent.toNat - (-exponent).toNat := by omega
  have hpow : (2 : ℚ) ^ exponent = 2 ^ exponent.toNat / 2 ^ (-exponent).toNat := by
    rw [← zpow_natCast, ← zpow_natCast, ← zpow_sub₀ two_ne_zero, ← hparts]
  simp only [scaleDown, Nat.pow_eq, Nat.cast_mul, Nat.cast_pow, Nat.cast_ofNat]
  rw [hpow]
  field_simp

/-- The whole part of a scaled ratio is below a power just if the ratio is below that power scaled
back. -/
theorem scaled_lt_iff (hden : 0 < den) (exponent : Int) (k : Nat) :
    (scaleDown num den exponent).1 / (scaleDown num den exponent).2 < 2 ^ k ↔
      (num / den : ℚ) < 2 ^ (k + exponent) := by
  have hpos := scaleDown_pos num hden exponent
  have hcast : (0 : ℚ) < (scaleDown num den exponent).2 := Nat.cast_pos.mpr hpos
  rw [Nat.div_lt_iff_lt_mul hpos, zpow_add₀ two_ne_zero, ← div_lt_iff₀ (by positivity),
    ← ratio_scaleDown, div_lt_iff₀ hcast, zpow_natCast]
  exact_mod_cast Iff.rfl

/-- The lengths of two numbers give their ratio up to a factor of two on either side. -/
theorem ratio_bounds (hnum : 0 < num) (hden : 0 < den) :
    (2 : ℚ) ^ ((num.log2 : Int) - den.log2 - 1) ≤ num / den ∧
      (num / den : ℚ) < 2 ^ ((num.log2 : Int) - den.log2 + 1) := by
  have hcast : (0 : ℚ) < den := Nat.cast_pos.mpr hden
  have hnumLow : (2 : ℚ) ^ num.log2 ≤ num := by exact_mod_cast Nat.log2_self_le hnum.ne'
  have hnumHigh : (num : ℚ) < 2 ^ (num.log2 + 1) := by exact_mod_cast Nat.lt_log2_self
  have hdenLow : (2 : ℚ) ^ den.log2 ≤ den := by exact_mod_cast Nat.log2_self_le hden.ne'
  have hdenHigh : (den : ℚ) ≤ 2 ^ (den.log2 + 1) := by exact_mod_cast Nat.lt_log2_self.le
  constructor
  · rw [le_div_iff₀ hcast]
    calc (2 : ℚ) ^ ((num.log2 : Int) - den.log2 - 1) * den
        ≤ 2 ^ ((num.log2 : Int) - den.log2 - 1) * 2 ^ (den.log2 + 1) := by gcongr
      _ = 2 ^ num.log2 := by
        rw [← zpow_natCast, ← zpow_natCast, ← zpow_add₀ two_ne_zero]
        congr 1
        omega
      _ ≤ num := hnumLow
  · rw [div_lt_iff₀ hcast]
    calc (num : ℚ) < 2 ^ (num.log2 + 1) := hnumHigh
      _ = 2 ^ ((num.log2 : Int) - den.log2 + 1) * 2 ^ den.log2 := by
        rw [← zpow_natCast, ← zpow_natCast, ← zpow_add₀ two_ne_zero]
        congr 1
        omega
      _ ≤ 2 ^ ((num.log2 : Int) - den.log2 + 1) * den := by gcongr

/-- At its exponent a ratio has a mantissa that fits, and one of full length above the lowest. -/
theorem exponentFor_bounds (hprecision : 0 < f.precision) (hnum : 0 < num) (hden : 0 < den) :
    f.lowest ≤ f.exponentFor num den ∧
      (num / den : ℚ) < 2 ^ (f.precision + f.exponentFor num den) ∧
      (f.lowest < f.exponentFor num den →
        (2 : ℚ) ^ ((f.precision - 1 : Nat) + f.exponentFor num den) ≤ num / den) := by
  obtain ⟨hlow, hhigh⟩ := ratio_bounds hnum hden
  generalize hguess : (num.log2 : Int) - den.log2 - f.precision = guess
  -- The exponent is the guess or one more, unless that is too low.
  obtain ⟨exact, hexact, hle, hlt⟩ : ∃ exact : Int, f.exponentFor num den = max exact f.lowest ∧
      (2 : ℚ) ^ ((f.precision - 1 : Nat) + exact) ≤ num / den ∧
      (num / den : ℚ) < 2 ^ (f.precision + exact) := by
    by_cases hfits : (scaleDown num den guess).1 / (scaleDown num den guess).2 < 2 ^ f.precision
    · have hsize : ((f.precision - 1 : Nat) : Int) + guess = num.log2 - den.log2 - 1 := by omega
      refine ⟨guess, ?_, hsize ▸ hlow, (scaled_lt_iff hden guess f.precision).mp hfits⟩
      simp only [Format.exponentFor, hguess, Nat.pow_eq, if_pos hfits]
    · have hsize : (f.precision : Int) + (guess + 1) = num.log2 - den.log2 + 1 := by omega
      have hbelow : ((f.precision - 1 : Nat) : Int) + (guess + 1) = f.precision + guess := by omega
      have hle := not_lt.mp (mt (scaled_lt_iff hden guess f.precision).mpr hfits)
      refine ⟨guess + 1, ?_, hbelow ▸ hle, hsize ▸ hhigh⟩
      simp only [Format.exponentFor, hguess, Nat.pow_eq, if_neg hfits]
  rw [hexact]
  refine ⟨le_max_right _ _, hlt.trans_le ?_, fun habove => ?_⟩
  · exact zpow_le_zpow_right₀ one_le_two (by omega)
  · rw [max_eq_left (by omega)]
    exact hle

/-! Numbers of a format -/

section

variable (hprecision : 0 < f.precision) (hrange : f.lowest ≤ f.highest)

include hrange in
theorem has_zero (negative : Bool) : f.Has (f.zero negative) :=
  ⟨Nat.two_pow_pos _, le_refl _, hrange, fun h => absurd h (lt_irrefl _)⟩

include hprecision hrange

theorem has_round (hden : 0 < den) (negative : Bool) : f.Has (f.round negative num den) := by
  unfold Format.round
  by_cases hzero : num = 0
  · rw [if_pos hzero]
    exact has_zero hrange negative
  obtain ⟨hlowest, hlt, hle⟩ := exponentFor_bounds hprecision (Nat.pos_of_ne_zero hzero) hden
  rw [if_neg hzero]
  generalize f.exponentFor num den = exponent at hlowest hlt hle
  rw [← scaled_lt_iff hden] at hlt
  rw [← not_lt, ← scaled_lt_iff hden, not_lt] at hle
  obtain ⟨hfloor, hceil⟩ :=
    roundHalfEven_bounds (scaleDown num den exponent).1 (scaleDown num den exponent).2
  simp only [Nat.pow_eq]
  split_ifs with hfull hhigh hhigh
  · trivial
  · -- The mantissa was rounded up to the next power of two.
    have hhalf : 2 ^ (f.precision - 1) < 2 ^ f.precision :=
      Nat.pow_lt_pow_right one_lt_two (by omega)
    exact ⟨hhalf, by omega, by omega, fun _ => le_refl _⟩
  · trivial
  · exact ⟨by omega, hlowest, by omega, fun habove => (hle habove).trans hfloor⟩

theorem has_ofDecimal (negative : Bool) (digits : Nat) (exponent : Int) :
    f.Has (f.ofDecimal negative digits exponent) := by
  unfold Format.ofDecimal
  dsimp only
  split_ifs
  · exact has_zero hrange negative
  · trivial
  · exact has_round hprecision hrange (Nat.pow_pos (by decide)) negative

/-- What is read in a format is a number of the format. -/
theorem has_of_readBinary {cs : List Char} (h : readBinary f cs = some x) : f.Has x := by
  unfold readBinary at h
  dsimp only at h
  split_ifs at h
  · cases h
    trivial
  · cases h
    trivial
  · unfold readMagnitude at h
    dsimp only at h
    split_ifs at h
    obtain ⟨exponent, -, rfl⟩ := Option.map_eq_some_iff.mp h
    exact has_ofDecimal hprecision hrange _ _ _

end

end WebService.Number
