import WebService.Proofs.Text.Octets
import WebService.Text.Percent

/-!
Percent-encoded octets: what is encoded is decoded again, whatever set of octets is reserved beside
the percent sign.
-/
namespace WebService.Text

variable {reserved : UInt8 → Bool} {b mark : UInt8} {bytes rest : List UInt8} {s : String}

/-! Decoding what was encoded -/

theorem hexValue?_hexDigit {n : Nat} (h : n < 16) : hexValue? (hexDigit n) = some n := by
  have hall : ∀ n, n < 16 → hexValue? (hexDigit n) = some n := by decide
  exact hall n h

theorem percentDecode_cons (h : b ≠ 0x25) :
    percentDecode (b :: rest) = b :: percentDecode rest := by
  rw [percentDecode]
  exact fun _ _ _ heq => absurd heq h

theorem percentDecode_digits (b : UInt8) (rest : List UInt8) :
    percentDecode (0x25 :: hexDigit (b.toNat / 16) :: hexDigit (b.toNat % 16) :: rest) =
      b :: percentDecode rest := by
  have hsize : b.toNat < 256 := b.toNat_lt
  have hhigh := hexValue?_hexDigit (n := b.toNat / 16) (by omega)
  have hlow := hexValue?_hexDigit (n := b.toNat % 16) (by omega)
  have hvalue : 16 * (b.toNat / 16) + b.toNat % 16 = b.toNat := by omega
  rw [percentDecode, hhigh, hlow]
  simp only [hvalue, UInt8.ofNat_toNat]

theorem percentEncode_cons : percentEncode reserved (b :: bytes) =
    (if reserved b then [0x25, hexDigit (b.toNat / 16), hexDigit (b.toNat % 16)] else [b]) ++
      percentEncode reserved bytes := rfl

theorem percentDecode_percentEncode (h : reserved 0x25 = true) (bytes : List UInt8) :
    percentDecode (percentEncode reserved bytes) = bytes := by
  induction bytes with
  | nil => rfl
  | cons b bytes ih =>
    rw [percentEncode_cons]
    split
    · exact (percentDecode_digits b _).trans (congrArg _ ih)
    · rename_i hb
      have hne : b ≠ 0x25 := by
        rintro rfl
        exact hb h
      exact (percentDecode_cons hne).trans (congrArg _ ih)

/-! What stands in an encoded text -/

theorem percentEncode_ne_nil (h : bytes ≠ []) : percentEncode reserved bytes ≠ [] := by
  cases bytes with
  | nil => exact absurd rfl h
  | cons b bytes =>
    rw [percentEncode_cons]
    split
    · exact List.cons_ne_nil _ _
    · exact List.cons_ne_nil _ _

/-- An encoded text holds percent signs, digits and what is not reserved. -/
theorem mem_percentEncode (h : mark ∈ percentEncode reserved bytes) :
    mark = 0x25 ∨ (∃ n < 16, mark = hexDigit n) ∨ (mark ∈ bytes ∧ reserved mark = false) := by
  obtain ⟨b, hb, hmem⟩ := List.mem_flatMap.mp h
  have hsize : b.toNat < 256 := b.toNat_lt
  split at hmem
  · simp only [List.mem_cons, List.not_mem_nil, or_false] at hmem
    rcases hmem with rfl | rfl | rfl
    · exact Or.inl rfl
    · exact Or.inr (Or.inl ⟨b.toNat / 16, by omega, rfl⟩)
    · exact Or.inr (Or.inl ⟨b.toNat % 16, by omega, rfl⟩)
  · rename_i hfree
    cases List.mem_singleton.mp hmem
    exact Or.inr (Or.inr ⟨hb, Bool.eq_false_iff.mpr hfree⟩)

/-- A slash does not stand in an encoded text if it is reserved. -/
theorem slash_not_mem_percentEncode (h : reserved 0x2f = true) (bytes : List UInt8) :
    0x2f ∉ percentEncode reserved bytes := by
  have hdigit : ∀ n < 16, 0x2f ≠ hexDigit n := by decide
  intro hmem
  rcases mem_percentEncode hmem with heq | ⟨n, hn, heq⟩ | ⟨-, hfree⟩
  · cases heq
  · exact hdigit n hn heq
  · rw [h] at hfree
    cases hfree

/-! Encoded texts as texts -/

theorem lt_of_mem_percentEncode (h : ∀ b ∈ bytes, b < 0x80 ∨ reserved b = true)
    (hmark : mark ∈ percentEncode reserved bytes) : mark < 0x80 := by
  have hdigit : ∀ n < 16, hexDigit n < 0x80 := by decide
  rcases mem_percentEncode hmark with rfl | ⟨n, hn, rfl⟩ | ⟨hmem, hfree⟩
  · decide
  · exact hdigit n hn
  · refine (h mark hmem).resolve_right ?_
    rw [hfree]
    exact Bool.false_ne_true

theorem percentEncode_of_forall_not (h : ∀ b ∈ bytes, reserved b = false) :
    percentEncode reserved bytes = bytes := by
  induction bytes with
  | nil => rfl
  | cons b bytes ih =>
    rw [percentEncode_cons, if_neg (by simp [h b List.mem_cons_self]),
      ih fun b hb => h b (List.mem_cons_of_mem _ hb)]
    rfl

theorem percentEncode_append (reserved : UInt8 → Bool) (bytes rest : List UInt8) :
    percentEncode reserved (bytes ++ rest) =
      percentEncode reserved bytes ++ percentEncode reserved rest := List.flatMap_append

/-- Where all octets above 0x7f are treated alike, an encoded text is a text again. -/
theorem exists_octets_eq_percentEncode (h : ∀ b, 0x80 ≤ b → reserved b = reserved 0x80)
    (s : String) : ∃ t, octets t = percentEncode reserved (octets s) := by
  have hchar : ∀ c : Char, ∃ t, octets t = percentEncode reserved (String.utf8EncodeChar c) := by
    intro c
    rcases utf8EncodeChar_cases c with ⟨hc, hoctets⟩ | ⟨-, hhigh⟩
    · refine exists_octets_eq_of_lt fun b hb => lt_of_mem_percentEncode ?_ hb
      intro b hb
      rw [hoctets, List.mem_singleton] at hb
      subst hb
      rw [UInt8.lt_iff_toNat_lt, toNat_ofNat_of_lt hc]
      exact Or.inl hc
    · cases hreserved : reserved 0x80 with
      | true =>
        refine exists_octets_eq_of_lt fun b hb => lt_of_mem_percentEncode ?_ hb
        exact fun b hb => Or.inr ((h b (hhigh b hb)).trans hreserved)
      | false =>
        refine ⟨String.ofList [c], ?_⟩
        rw [percentEncode_of_forall_not fun b hb => (h b (hhigh b hb)).trans hreserved,
          octets_ofList, List.flatMap_singleton]
  have hchars : ∀ cs : List Char, ∃ t, octets t =
      percentEncode reserved (cs.flatMap String.utf8EncodeChar) := by
    intro cs
    induction cs with
    | nil => exact ⟨"", rfl⟩
    | cons c cs ih =>
      obtain ⟨first, hfirst⟩ := hchar c
      obtain ⟨others, hothers⟩ := ih
      refine ⟨first ++ others, ?_⟩
      rw [octets_append, hfirst, hothers, List.flatMap_cons, percentEncode_append]
  rw [octets_eq]
  exact hchars s.toList

end WebService.Text
