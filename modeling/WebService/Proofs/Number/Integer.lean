import WebService.Number.Layout
import WebService.Number.Reading

/-!
Integers are read as they are written.
-/
namespace WebService.Number

variable {lowest highest i : Int} {limit n : Nat} {c : Char} {cs ds : List Char}

theorem natOfDigits_digitsOf (n : Nat) : natOfDigits (digitsOf n) = n := by
  have hread := Nat.ofDigitChars_ten_toDigits (n := n)
  rw [Nat.ofDigitChars_eq_foldl] at hread
  exact hread

theorem isDigit_of_mem_digitsOf (h : c ∈ digitsOf n) : c.isDigit = true :=
  Nat.isDigit_of_mem_toDigits (by decide) (by decide) h

theorem toNat_of_isDigit (h : c.isDigit = true) : 48 ≤ c.toNat ∧ c.toNat ≤ 57 := by
  simp only [Char.isDigit, Bool.and_eq_true, decide_eq_true_iff] at h
  exact h

theorem allDigits_digitsOf (n : Nat) : allDigits (digitsOf n) = true := by
  have hne : digitsOf n ≠ [] := Nat.toDigits_ne_nil
  simp only [allDigits, Bool.and_eq_true, Bool.not_eq_true', List.isEmpty_eq_false_iff,
    List.all_eq_true]
  exact ⟨hne, fun c hc => isDigit_of_mem_digitsOf hc⟩

theorem isDigit_of_allDigits (h : allDigits ds = true) (hc : c ∈ ds) : c.isDigit = true := by
  simp only [allDigits, Bool.and_eq_true, List.all_eq_true] at h
  exact h.2 c hc

theorem exists_digit_digitsOf (n : Nat) : ∃ c cs, digitsOf n = c :: cs ∧ c.isDigit = true := by
  cases hds : digitsOf n with
  | nil => exact absurd hds Nat.toDigits_ne_nil
  | cons c cs => exact ⟨c, cs, rfl, isDigit_of_mem_digitsOf (hds ▸ List.mem_cons_self)⟩

theorem ne_of_isDigit {mark : Char} (hc : c.isDigit = true) (hmark : mark.isDigit = false) :
    c ≠ mark := by
  rintro rfl
  rw [hc] at hmark
  cases hmark

/-- Only the digits of zero begin with a zero. -/
theorem exists_digitsOf_eq_cons (hn : 0 < n) : ∃ c cs, digitsOf n = c :: cs ∧ c ≠ '0' := by
  have hdigit : ∀ d < 10, 0 < d → d.digitChar ≠ '0' := by decide
  induction n using Nat.strongRecOn with
  | ind n ih =>
    unfold digitsOf at ih ⊢
    rw [Nat.toDigits_eq_if (by decide)]
    by_cases hlow : n < 10
    · rw [if_pos hlow]
      exact ⟨n.digitChar, [], rfl, hdigit n hlow hn⟩
    · rw [if_neg hlow]
      obtain ⟨c, cs, hcs, hc⟩ := ih (n / 10) (by omega) (by omega)
      exact ⟨c, cs ++ [(n % 10).digitChar], by rw [hcs, List.cons_append], hc⟩

theorem intText_ne_nil (i : Int) : intText i ≠ [] := by
  unfold intText
  split
  · exact List.cons_ne_nil _ _
  · exact Nat.toDigits_ne_nil

/-! Natural numbers -/

/-- Whether a text spells a number: digits, with a plus sign in front or without. -/
def Spells (cs : List Char) (n : Nat) : Prop :=
  ∃ ds, (cs = ds ∨ cs = '+' :: ds) ∧ allDigits ds = true ∧ natOfDigits ds = n

theorem spells_digitsOf (n : Nat) : Spells (digitsOf n) n :=
  ⟨digitsOf n, .inl rfl, allDigits_digitsOf n, natOfDigits_digitsOf n⟩

/-- A number above the limit is not cut down to it. -/
theorem readNat_of_spells (h : Spells cs n) :
    readNat limit cs = if n ≤ limit then some n else none := by
  obtain ⟨ds, rfl | rfl, hds, rfl⟩ := h
  · unfold readNat
    split
    · have hplus := isDigit_of_allDigits hds List.mem_cons_self
      cases hplus
    · rw [if_pos hds]
  · simp only [readNat, hds, if_true]

theorem readNat_of_not_spells (h : ∀ n, ¬ Spells cs n) : readNat limit cs = none := by
  unfold readNat
  split
  · rename_i rest
    rw [if_neg fun hds => h _ ⟨rest, .inr rfl, hds, rfl⟩]
  · rw [if_neg fun hds => h _ ⟨cs, .inl rfl, hds, rfl⟩]

theorem le_of_readNat (h : readNat limit cs = some n) : n ≤ limit := by
  by_cases hspells : ∃ m, Spells cs m
  · obtain ⟨m, hm⟩ := hspells
    rw [readNat_of_spells hm] at h
    split at h
    · rename_i hle
      cases h
      exact hle
    · cases h
  · rw [readNat_of_not_spells fun m hm => hspells ⟨m, hm⟩] at h
    cases h

/-! Integers -/

/-- A number without a sign is the value of its digits. -/
theorem readInt_of_allDigits (h : allDigits ds = true)
    (hlowest : lowest ≤ natOfDigits ds) (hhighest : natOfDigits ds ≤ highest) :
    readInt lowest highest ds = some (natOfDigits ds : Int) := by
  have hsign : ∀ {sign : Char} {rest : List Char}, sign.isDigit = false → ds ≠ sign :: rest := by
    rintro sign rest hno rfl
    rw [isDigit_of_allDigits h List.mem_cons_self] at hno
    cases hno
  unfold readInt
  split
  rename_i negative digits hcases
  split at hcases
  · exact absurd rfl (hsign (by decide))
  · exact absurd rfl (hsign (by decide))
  · cases hcases
    simp [h, hlowest, hhighest]

theorem readInt_intText (hlowest : lowest ≤ i) (hhighest : i ≤ highest) :
    readInt lowest highest (intText i) = some i := by
  have hdigits := allDigits_digitsOf i.natAbs
  have hvalue := natOfDigits_digitsOf i.natAbs
  unfold intText
  split
  · rename_i hnegative
    have hi : -(i.natAbs : Int) = i := by omega
    simp only [readInt, hdigits, hvalue, if_true, hi, hlowest, hhighest, decide_true,
      Bool.and_self]
  · rename_i hnonnegative
    have hi : (natOfDigits (digitsOf i.natAbs) : Int) = i := by omega
    have hread := readInt_of_allDigits hdigits (hi ▸ hlowest) (hi ▸ hhighest)
    rwa [hi] at hread

end WebService.Number
