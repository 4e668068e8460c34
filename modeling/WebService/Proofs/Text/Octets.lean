import WebService.Proofs.Text.Split
import WebService.Text.Utf8

/-!
The octets of a text, character by character: an octet below 0x80 is a character of its own, and all
octets of other characters lie above.
-/
namespace WebService.Text

variable {c : Char} {b : UInt8} {s : String} {cs : List Char} {bytes : List UInt8}

theorem octets_eq (s : String) : octets s = s.toList.flatMap String.utf8EncodeChar := by
  have hencode := String.utf8Encode_toList (b := s)
  rw [List.utf8Encode] at hencode
  rw [octets, String.toUTF8, ← hencode]
  simp

theorem octets_ofList (cs : List Char) :
    octets (String.ofList cs) = cs.flatMap String.utf8EncodeChar := by
  rw [octets_eq, String.toList_ofList]

theorem ofOctets?_octets (s : String) : ofOctets? (octets s) = some s := by
  simp only [ofOctets?, octets, String.fromUTF8?, Array.toArray_toList]
  exact dif_pos s.isValidUTF8

theorem octets_of_ofOctets? (h : ofOctets? bytes = some s) : octets s = bytes := by
  unfold ofOctets? String.fromUTF8? at h
  split at h
  · cases h
    exact List.toList_toArray
  · cases h

theorem octets_injective {s t : String} (h : octets s = octets t) : s = t :=
  Option.some.inj ((ofOctets?_octets s).symm.trans (h ▸ ofOctets?_octets t))

theorem isEmpty_octets {s : String} (h : s ≠ "") : (octets s).isEmpty = false := by
  cases ho : octets s with
  | nil => exact absurd (octets_injective (ho.trans (by rfl : [] = octets ""))) h
  | cons octet rest => rfl

theorem le_ofNat {n : Nat} (hlow : 0x80 ≤ n) (hhigh : n < 0x100) :
    (0x80 : UInt8) ≤ UInt8.ofNat n := by
  rw [UInt8.le_iff_toNat_le, UInt8.toNat_ofNat_of_lt' hhigh]
  exact hlow

/-- The octets of one character: the character itself, or octets that all lie above 0x7f. -/
theorem utf8EncodeChar_cases (c : Char) :
    c.toNat < 0x80 ∧ String.utf8EncodeChar c = [UInt8.ofNat c.toNat] ∨
      0x80 ≤ c.toNat ∧ ∀ b ∈ String.utf8EncodeChar c, 0x80 ≤ b := by
  rw [String.utf8EncodeChar]
  by_cases hc : c.val.toNat ≤ 127
  · exact Or.inl ⟨Nat.lt_succ_of_le hc, if_pos hc⟩
  · refine Or.inr ⟨Nat.lt_of_not_le hc, ?_⟩
    rw [if_neg hc]
    intro b hb
    split at hb
    · simp only [List.mem_cons, List.not_mem_nil, or_false] at hb
      rcases hb with rfl | rfl
      all_goals exact le_ofNat (by omega) (by omega)
    · split at hb
      · simp only [List.mem_cons, List.not_mem_nil, or_false] at hb
        rcases hb with rfl | rfl | rfl
        all_goals exact le_ofNat (by omega) (by omega)
      · simp only [List.mem_cons, List.not_mem_nil, or_false] at hb
        rcases hb with rfl | rfl | rfl | rfl
        all_goals exact le_ofNat (by omega) (by omega)

theorem toNat_ofNat_of_lt {n : Nat} (h : n < 0x80) : (UInt8.ofNat n).toNat = n :=
  UInt8.toNat_ofNat_of_lt' (Nat.lt_of_lt_of_le h (by decide))

theorem utf8EncodeChar_of_lt (h : c.toNat < 0x80) :
    String.utf8EncodeChar c = [UInt8.ofNat c.toNat] := by
  rcases utf8EncodeChar_cases c with ⟨-, hoctets⟩ | ⟨hhigh, -⟩
  · exact hoctets
  · omega

/-- Octets below 0x80 as the text that they are. -/
def asciiText (bytes : List UInt8) : String := String.ofList (bytes.map fun b => Char.ofNat b.toNat)

theorem octets_asciiText (h : ∀ b ∈ bytes, b < 0x80) : octets (asciiText bytes) = bytes := by
  rw [asciiText, octets_ofList]
  induction bytes with
  | nil => rfl
  | cons b bytes ih =>
    have hb : b.toNat < 0x80 := UInt8.lt_iff_toNat_lt.mp (h b List.mem_cons_self)
    have hvalid : b.toNat.isValidChar := Or.inl (by omega)
    have hc : (Char.ofNat b.toNat).toNat = b.toNat := by
      rw [Char.ofNat, dif_pos hvalid]
      rfl
    rw [List.map_cons, List.flatMap_cons, utf8EncodeChar_of_lt (by rwa [hc]), hc, UInt8.ofNat_toNat,
      ih fun b hb => h b (List.mem_cons_of_mem _ hb)]
    rfl

theorem exists_octets_eq_of_lt (h : ∀ b ∈ bytes, b < 0x80) : ∃ s, octets s = bytes :=
  ⟨asciiText bytes, octets_asciiText h⟩

/-- A character below 0x80 stands in a text where its octet stands among the octets. -/
theorem mem_utf8EncodeChar_iff {mark : Char} (hmark : mark.toNat < 0x80) :
    UInt8.ofNat mark.toNat ∈ String.utf8EncodeChar c ↔ c = mark := by
  rcases utf8EncodeChar_cases c with ⟨hc, hoctets⟩ | ⟨hc, hoctets⟩
  · rw [hoctets, List.mem_singleton]
    constructor
    · intro h
      have hnat := congrArg UInt8.toNat h
      rw [toNat_ofNat_of_lt hmark, toNat_ofNat_of_lt hc] at hnat
      exact Char.toNat_inj.mp hnat.symm
    · rintro rfl
      rfl
  · constructor
    · intro h
      have hhigh := UInt8.le_iff_toNat_le.mp (hoctets _ h)
      rw [toNat_ofNat_of_lt hmark] at hhigh
      exact absurd hmark (Nat.not_lt_of_le hhigh)
    · rintro rfl
      omega

theorem octets_append (s t : String) : octets (s ++ t) = octets s ++ octets t := by
  simp only [octets_eq, String.toList_append, List.flatMap_append]

/-- A text is cut at a character where its octets are cut at the octet. -/
theorem splitOn_octets {mark : Char} (hmark : mark.toNat < 0x80) (cs : List Char) :
    splitOn (· = UInt8.ofNat mark.toNat) (cs.flatMap String.utf8EncodeChar) =
      (splitOn (· = mark) cs).map (·.flatMap String.utf8EncodeChar) := by
  induction cs with
  | nil => rfl
  | cons c cs ih =>
    rw [List.flatMap_cons]
    by_cases hc : c = mark
    · subst hc
      rw [utf8EncodeChar_of_lt hmark, List.singleton_append, splitOn_cons (by simp),
        splitOn_cons (by simp), ih]
      rfl
    · obtain ⟨part, parts, hparts⟩ := exists_splitOn_eq_cons (· = mark) cs
      have hfree : ∀ b ∈ String.utf8EncodeChar c, decide (b = UInt8.ofNat mark.toNat) = false := by
        intro b hb
        apply decide_eq_false
        rintro rfl
        exact hc ((mem_utf8EncodeChar_iff hmark).mp hb)
      rw [hparts] at ih
      rw [splitOn_append hfree ih, splitOn, if_neg (by simpa using hc), hparts]
      rfl

end WebService.Text
