import Mathlib.Algebra.Group.Nat.Defs
import WebService.Proofs.Json.Fits
import WebService.Settings.Coercion
import WebService.Settings.Config

/-!
Reading one setting. A setting of the type that its key declares is read as it stands, and whatever
is read has the type of the key.
-/
namespace WebService.Settings

open Json (Document Shape Value)
open Json.Shape (Field)

/-- Shapes of flags, texts, numbers and lists of texts, which may be optional. -/
inductive IsPlain : Shape → Prop where
  | boolean : IsPlain .boolean
  | text : IsPlain .text
  | unsigned (name : String) (bits : Nat) : IsPlain (.integer (.unsigned name bits))
  | texts : IsPlain (.list .text)
  | optional {shape : Shape} (h : IsPlain shape) : IsPlain (.optional shape)

/-- Shapes of single settings. -/
inductive IsSingle : Shape → Prop where
  | plain {shape : Shape} (h : IsPlain shape) : IsSingle shape
  | cors : IsSingle Cors.settingShape

/-- Whether data is of the type that a single setting is read as. -/
def IsOf : Shape → Document → Prop
  | .boolean, document => ∃ b, document = .boolean b
  | .text, document => ∃ s, document = .text s
  | .integer _, document => ∃ n, document = .ofNat n
  | .list _, document => ∃ texts : List String, document = .list (texts.map .text)
  | .optional shape, document => document = .null ∨ IsOf shape document
  | _, document => ∃ s : Cors.Setting, document = s.toDocument

variable {shape : Shape} {name : String} {bits : Nat} {document : Document} {v : Value}

namespace Setting

theorem log2_unsigned (name : String) (bits : Nat) :
    Nat.log2 ((Json.IntegerType.unsigned name bits).highest + 1).toNat = bits := by
  have hpow : ((Json.IntegerType.unsigned name bits).highest + 1).toNat = 2 ^ bits := by
    have hsum : (Json.IntegerType.unsigned name bits).highest + 1 = (2 ^ bits : Nat) := by
      rw [Json.IntegerType.unsigned]
      exact Int.sub_add_cancel _ _
    rw [hsum, Int.toNat_natCast]
  rw [hpow, Nat.log2_two_pow]

theorem fits_unsigned_iff {i : Int} :
    (Shape.integer (.unsigned name bits)).fits (.number (.whole i)) = true ↔
      0 ≤ i ∧ i ≤ (2 ^ bits : Nat) - 1 := by
  rw [Shape.fits, Bool.and_eq_true, decide_eq_true_iff, decide_eq_true_iff]
  rfl

theorem toNatBelow_of_lt {layer : Option String} {n : Nat} (h : n < 2 ^ bits) :
    (scalar layer (.integer n)).toNatBelow bits = .ok n := by
  have hnat : (scalar layer (.integer n)).toNat = .ok n := by
    rw [toNat, if_neg (Int.not_lt.mpr (Int.natCast_nonneg n))]
    rfl
  rw [toNatBelow, hnat]
  exact if_pos h

theorem read_unsigned_of_fits (s : Setting)
    (h : (Shape.integer (.unsigned name bits)).fits s.toValue = true) :
    s.read (.integer (.unsigned name bits)) = .ok s.toValue.toDocument := by
  cases s with
  | list layer items => cases h
  | table layer entries => cases h
  | scalar layer x =>
    cases x with
    | integer i =>
      obtain ⟨hlow, hhigh⟩ := fits_unsigned_iff.mp h
      obtain ⟨n, rfl⟩ := Int.eq_ofNat_of_zero_le hlow
      have hn : n < 2 ^ bits := by
        have hpos : 0 < 2 ^ bits := Nat.two_pow_pos bits
        omega
      rw [read, log2_unsigned, toNatBelow_of_lt hn]
      rfl
    | _ => cases h

theorem isNull_iff (s : Setting) : s.isNull = true ↔ s.toValue = .null := by
  cases s with
  | scalar layer x => cases x <;> simp [isNull, toValue, Scalar.toValue]
  | _ => simp [isNull, toValue]

theorem read_of_isPlain (hshape : IsPlain shape) (s : Setting) (h : shape.fits s.toValue = true) :
    s.read shape = .ok (shape.filled s.toValue) := by
  induction hshape with
  | boolean =>
    cases s with
    | scalar layer x =>
      cases x with
      | boolean b => rfl
      | _ => cases h
    | _ => cases h
  | text =>
    cases s with
    | scalar layer x =>
      cases x with
      | text t => rfl
      | _ => cases h
    | _ => cases h
  | unsigned name bits => exact read_unsigned_of_fits s h
  | texts =>
    change s.readExactly (.list .text) = _
    rw [readExactly, Shape.read_of_fits _ _ h]
  | @optional shape hshape ih =>
    rw [read]
    split
    · rename_i hnull
      rw [(isNull_iff s).mp hnull]
      rfl
    · rename_i hvalue
      have hne : s.toValue ≠ .null := mt (isNull_iff s).mpr hvalue
      rw [Shape.fits_optional_of_ne hne] at h
      rw [ih h, Shape.filled_optional_of_ne hne]

/-- A setting of the type that its key declares is read as the value that it is. -/
theorem read_of_fits (hshape : IsSingle shape) (s : Setting) (h : shape.fits s.toValue = true) :
    s.read shape = .ok (shape.filled s.toValue) := by
  cases hshape with
  | plain hshape => exact read_of_isPlain hshape s h
  | cors =>
    change s.readExactly Cors.settingShape = _
    rw [readExactly, Shape.read_of_fits _ _ h]

end Setting

/-! Types of what is read -/

theorem exists_texts_of_fits {items : List Value} (h : ∀ v ∈ items, Shape.text.fits v = true) :
    ∃ texts : List String, items = texts.map .text := by
  induction items with
  | nil => exact ⟨[], rfl⟩
  | cons v items ih =>
    obtain ⟨texts, rfl⟩ := ih fun v hv => h v (List.mem_cons_of_mem _ hv)
    have hfirst := h v List.mem_cons_self
    cases v with
    | text s => exact ⟨s :: texts, rfl⟩
    | _ => cases hfirst

theorem isOf_filled_of_isPlain (hshape : IsPlain shape) (h : shape.fits v = true) :
    IsOf shape (shape.filled v) := by
  induction hshape with
  | boolean =>
    cases v with
    | boolean b => exact ⟨b, rfl⟩
    | _ => cases h
  | text =>
    cases v with
    | text s => exact ⟨s, rfl⟩
    | _ => cases h
  | unsigned name bits =>
    cases v with
    | number n =>
      cases n with
      | whole i =>
        obtain ⟨n, rfl⟩ := Int.eq_ofNat_of_zero_le (Setting.fits_unsigned_iff.mp h).1
        exact ⟨n, rfl⟩
      | real x => cases h
    | _ => cases h
  | texts =>
    cases v with
    | list items =>
      rw [Shape.fits, List.all_eq_true] at h
      obtain ⟨texts, rfl⟩ := exists_texts_of_fits h
      refine ⟨texts, ?_⟩
      rw [Shape.filled, List.map_map]
      rfl
    | _ => cases h
  | @optional shape hshape ih =>
    by_cases hnull : v = .null
    · exact Or.inl (hnull ▸ rfl)
    · rw [Shape.fits_optional_of_ne hnull] at h
      rw [Shape.filled_optional_of_ne hnull]
      exact Or.inr (ih h)

theorem exists_listDocument (h : IsOf (.optional (.list .text)) document) :
    ∃ texts, document = Cors.Setting.listDocument texts := by
  rcases h with rfl | ⟨texts, rfl⟩
  · exact ⟨none, rfl⟩
  · exact ⟨some texts, rfl⟩

theorem options_of_fits {members : List (String × Value)}
    (h : Cors.settingShape.fits (.object members) = true) :
    Cors.optionsShape.fits (.object members) = true := by
  simp only [Cors.settingShape, Shape.fits, Shape.fitsFirst, Bool.false_or, Bool.and_false,
    Bool.or_false, Bool.and_eq_true] at h
  exact h.2

theorem isPlain_option {f : Field} (hf : f ∈ Cors.optionsShape.fields) :
    IsPlain f.2.1 ∧ IsOf f.2.1 (f.2.2.getD .null) := by
  have htexts : IsPlain (.optional (.list .text)) := .optional .texts
  revert f
  simp only [Cors.optionsShape, Shape.fields, List.forall_mem_cons]
  exact ⟨⟨htexts, Or.inl rfl⟩, ⟨htexts, Or.inl rfl⟩, ⟨htexts, Or.inl rfl⟩, ⟨.boolean, false, rfl⟩,
    ⟨.unsigned _ _, 86400, rfl⟩, List.forall_mem_nil _⟩

/-- The options of a table are of their types, those left out by default. -/
theorem isOf_option {members : List (String × Value)} {f : Field}
    (h : Cors.optionsShape.fits (.object members) = true) (hf : f ∈ Cors.optionsShape.fields) :
    IsOf f.2.1 (Field.filled members f) := by
  obtain ⟨hshape, hdefault⟩ := isPlain_option hf
  rcases Field.filled_cases h hf with hvalue | ⟨v, hfits, hvalue⟩
  · rw [hvalue]
    exact hdefault
  · rw [hvalue]
    exact isOf_filled_of_isPlain hshape hfits

theorem exists_options {members : List (String × Value)}
    (h : Cors.optionsShape.fits (.object members) = true) :
    ∃ o : Cors.Options, Cors.optionsShape.filled (.object members) =
      (Cors.Setting.custom o).toDocument := by
  have hfields : ∀ f ∈ Cors.optionsShape.fields, IsOf f.2.1 (Field.filled members f) :=
    fun f => isOf_option h
  simp only [Cors.optionsShape, Shape.fields, List.forall_mem_cons] at hfields
  obtain ⟨horigins, hmethods, hheaders, ⟨credentials, hcredentials⟩, ⟨maxAge, hage⟩, -⟩ := hfields
  obtain ⟨origins, horigins⟩ := exists_listDocument horigins
  obtain ⟨methods, hmethods⟩ := exists_listDocument hmethods
  obtain ⟨headers, hheaders⟩ := exists_listDocument hheaders
  refine ⟨⟨origins, methods, headers, credentials, maxAge⟩, ?_⟩
  rw [Cors.optionsShape, Shape.filled, Shape.filledFields_eq]
  simp only [List.map_cons, List.map_nil, horigins, hmethods, hheaders, hcredentials, hage]
  rfl

theorem isOf_filled (hshape : IsSingle shape) (h : shape.fits v = true) :
    IsOf shape (shape.filled v) := by
  cases hshape with
  | plain hshape => exact isOf_filled_of_isPlain hshape h
  | cors =>
    cases v with
    | boolean b => exact ⟨.enabled b, rfl⟩
    | object members =>
      have hoptions := options_of_fits h
      obtain ⟨o, ho⟩ := exists_options hoptions
      refine ⟨.custom o, ?_⟩
      rw [Cors.settingShape, Shape.filled, Shape.filledFirst, Shape.filledFirst, if_pos hoptions,
        ho]
      rfl
    | _ => simp [Cors.settingShape, Cors.optionsShape, Shape.fits, Shape.fitsFirst] at h

theorem isOf_read_of_isPlain (hshape : IsPlain shape) {layer : Option String} {x : Scalar}
    (h : (Setting.scalar layer x).read shape = .ok document) : IsOf shape document := by
  induction hshape with
  | boolean =>
    obtain ⟨b, -, hb⟩ := bind_eq_ok_iff.mp h
    cases hb
    exact ⟨b, rfl⟩
  | text =>
    obtain ⟨s, -, hs⟩ := bind_eq_ok_iff.mp h
    cases hs
    exact ⟨s, rfl⟩
  | unsigned name bits =>
    obtain ⟨n, -, hn⟩ := bind_eq_ok_iff.mp h
    cases hn
    exact ⟨n, rfl⟩
  | texts => cases x <;> cases h
  | @optional shape hshape ih =>
    rw [Setting.read] at h
    split at h
    · cases h
      exact Or.inl rfl
    · exact Or.inr (ih h)

theorem isOf_read_scalar (hshape : IsSingle shape) {layer : Option String} {x : Scalar}
    (h : (Setting.scalar layer x).read shape = .ok document) : IsOf shape document := by
  cases hshape with
  | plain hshape => exact isOf_read_of_isPlain hshape h
  | cors =>
    cases x with
    | boolean b =>
      cases h
      exact ⟨.enabled b, rfl⟩
    | _ => cases h

end WebService.Settings
