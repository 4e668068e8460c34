import WebService.Proofs.Text.Octets

/-!
Octets of a text are read without loss: each character is found again behind its octets, so that no
octet is replaced.
-/
namespace WebService.Text

variable {b low high : UInt8} {bytes : List UInt8} {code owed n : Nat} {c : Char}

/-! Single octets -/

theorem lossyFrom_lead {more : Nat} (hb : 0x80 ≤ b) (h : sequenceAfter b = some (more, low, high))
    (bytes : List UInt8) : lossyFrom 0 0 0 0 (b :: bytes) =
      lossyFrom more (b.toNat % Nat.pow 2 (6 - more)) low high bytes := by
  have hlead : ¬ b < 0x80 := UInt8.not_lt.mpr hb
  simp [lossyFrom, hlead, h]

theorem lossyFrom_more (hlow : low ≤ b) (hhigh : b ≤ high) (howed : 2 ≤ owed) (bytes : List UInt8) :
    lossyFrom owed code low high (b :: bytes) =
      lossyFrom (owed - 1) (code * 64 + b.toNat % 64) 0x80 0xbf bytes := by
  have hsome : owed ≠ 0 := by omega
  have hnext : owed ≠ 1 := by omega
  simp [lossyFrom, hlow, hhigh, hsome, hnext]

theorem lossyFrom_last (hlow : low ≤ b) (hhigh : b ≤ high) (bytes : List UInt8) :
    lossyFrom 1 code low high (b :: bytes) =
      Char.ofNat (code * 64 + b.toNat % 64) :: lossyFrom 0 0 0 0 bytes := by
  simp [lossyFrom, hlow, hhigh]

theorem lossyFrom_of_lt (h : n < 0x80) (bytes : List UInt8) :
    lossyFrom 0 0 0 0 (UInt8.ofNat n :: bytes) = Char.ofNat n :: lossyFrom 0 0 0 0 bytes := by
  have hlow : UInt8.ofNat n < 0x80 := by
    rw [UInt8.lt_iff_toNat_lt, toNat_ofNat_of_lt h]
    exact h
  simp [lossyFrom, hlow, toNat_ofNat_of_lt h]

/-! Octets of one character -/

theorem tail_bounds (n : Nat) : (0x80 : UInt8) ≤ UInt8.ofNat (n % 64 + 128) ∧
    UInt8.ofNat (n % 64 + 128) ≤ 0xbf ∧ (UInt8.ofNat (n % 64 + 128)).toNat % 64 = n % 64 := by
  have hall : ∀ k < 64, (0x80 : UInt8) ≤ UInt8.ofNat (k + 128) ∧ UInt8.ofNat (k + 128) ≤ 0xbf ∧
      (UInt8.ofNat (k + 128)).toNat % 64 = k := by decide
  exact hall (n % 64) (by omega)

theorem sequenceAfter_two {k : Nat} (hhigh : k < 32) (hlow : 2 ≤ k) :
    sequenceAfter (UInt8.ofNat (k + 192)) = some (1, 0x80, 0xbf) ∧
      (0x80 : UInt8) ≤ UInt8.ofNat (k + 192) ∧ (UInt8.ofNat (k + 192)).toNat % 32 = k := by
  revert k
  decide

/-- Of three octets the second is bound from below after the least lead, and from above where
surrogates would begin. -/
theorem sequenceAfter_three {k : Nat} (h : k < 16) :
    sequenceAfter (UInt8.ofNat (k + 224)) =
        some (2, if k = 0 then 0xa0 else 0x80, if k = 13 then 0x9f else 0xbf) ∧
      (0x80 : UInt8) ≤ UInt8.ofNat (k + 224) ∧ (UInt8.ofNat (k + 224)).toNat % 16 = k := by
  revert k
  decide

/-- Of four octets the second is bound from below after the least lead, and from above after the
greatest. -/
theorem sequenceAfter_four {k : Nat} (h : k ≤ 4) :
    sequenceAfter (UInt8.ofNat (k + 240)) =
        some (3, if k = 0 then 0x90 else 0x80, if k = 4 then 0x8f else 0xbf) ∧
      (0x80 : UInt8) ≤ UInt8.ofNat (k + 240) ∧ (UInt8.ofNat (k + 240)).toNat % 8 = k := by
  revert k
  decide

theorem le_tail {k : Nat} (hn : k ≤ n % 64) (hk : k < 64) :
    UInt8.ofNat (k + 128) ≤ UInt8.ofNat (n % 64 + 128) := by
  rw [UInt8.le_iff_toNat_le, UInt8.toNat_ofNat_of_lt' (show k + 128 < 256 by omega),
    UInt8.toNat_ofNat_of_lt' (show n % 64 + 128 < 256 by omega)]
  omega

theorem tail_le {k : Nat} (hn : n % 64 ≤ k) (hk : k < 64) :
    UInt8.ofNat (n % 64 + 128) ≤ UInt8.ofNat (k + 128) := by
  rw [UInt8.le_iff_toNat_le, UInt8.toNat_ofNat_of_lt' (show k + 128 < 256 by omega),
    UInt8.toNat_ofNat_of_lt' (show n % 64 + 128 < 256 by omega)]
  omega

theorem lossyFrom_two (hlow : 0x80 ≤ n) (hhigh : n ≤ 0x7ff) (bytes : List UInt8) :
    lossyFrom 0 0 0 0 (UInt8.ofNat (n / 64 % 32 + 192) :: UInt8.ofNat (n % 64 + 128) :: bytes) =
      Char.ofNat n :: lossyFrom 0 0 0 0 bytes := by
  obtain ⟨hlead, hmark, hvalue⟩ := sequenceAfter_two (k := n / 64 % 32) (by omega) (by omega)
  obtain ⟨hleast, hmost, htail⟩ := tail_bounds n
  have hcode : n / 64 % 32 * 64 + n % 64 = n := by omega
  rw [lossyFrom_lead hmark hlead, lossyFrom_last hleast hmost, htail]
  change Char.ofNat ((UInt8.ofNat (n / 64 % 32 + 192)).toNat % 32 * 64 + n % 64) :: _ = _
  rw [hvalue, hcode]

theorem lossyFrom_three (hlow : 0x800 ≤ n) (hhigh : n ≤ 0xffff) (hvalid : n.isValidChar)
    (bytes : List UInt8) :
    lossyFrom 0 0 0 0 (UInt8.ofNat (n / 4096 % 16 + 224) :: UInt8.ofNat (n / 64 % 64 + 128) ::
      UInt8.ofNat (n % 64 + 128) :: bytes) = Char.ofNat n :: lossyFrom 0 0 0 0 bytes := by
  obtain ⟨hlead, hmark, hvalue⟩ := sequenceAfter_three (k := n / 4096 % 16) (by omega)
  obtain ⟨hleast, hmost, htail⟩ := tail_bounds n
  obtain ⟨hfirst, hlast, hmiddle⟩ := tail_bounds (n / 64)
  have hleast' : (if n / 4096 % 16 = 0 then 0xa0 else 0x80) ≤ UInt8.ofNat (n / 64 % 64 + 128) := by
    split
    · exact le_tail (k := 32) (by omega) (by decide)
    · exact hfirst
  have hmost' : UInt8.ofNat (n / 64 % 64 + 128) ≤ if n / 4096 % 16 = 13 then 0x9f else 0xbf := by
    split
    · exact tail_le (k := 31) (by omega) (by decide)
    · exact hlast
  have hcode : (n / 4096 % 16 * 64 + n / 64 % 64) * 64 + n % 64 = n := by omega
  rw [lossyFrom_lead hmark hlead, lossyFrom_more hleast' hmost' (by decide),
    lossyFrom_last hleast hmost, htail, hmiddle]
  change Char.ofNat (((UInt8.ofNat (n / 4096 % 16 + 224)).toNat % 16 * 64 + _) * 64 + _) :: _ = _
  rw [hvalue, hcode]

theorem lossyFrom_four (hlow : 0x10000 ≤ n) (hvalid : n.isValidChar) (bytes : List UInt8) :
    lossyFrom 0 0 0 0 (UInt8.ofNat (n / 262144 % 8 + 240) :: UInt8.ofNat (n / 4096 % 64 + 128) ::
      UInt8.ofNat (n / 64 % 64 + 128) :: UInt8.ofNat (n % 64 + 128) :: bytes) =
      Char.ofNat n :: lossyFrom 0 0 0 0 bytes := by
  obtain ⟨hlead, hmark, hvalue⟩ := sequenceAfter_four (k := n / 262144 % 8) (by omega)
  obtain ⟨hleast, hmost, htail⟩ := tail_bounds n
  obtain ⟨hthird, hthird', hvalue'⟩ := tail_bounds (n / 64)
  obtain ⟨hfirst, hlast, hsecond⟩ := tail_bounds (n / 4096)
  have hleast' :
      (if n / 262144 % 8 = 0 then 0x90 else 0x80) ≤ UInt8.ofNat (n / 4096 % 64 + 128) := by
    split
    · exact le_tail (k := 16) (by omega) (by decide)
    · exact hfirst
  have hmost' : UInt8.ofNat (n / 4096 % 64 + 128) ≤ if n / 262144 % 8 = 4 then 0x8f else 0xbf := by
    split
    · exact tail_le (k := 15) (by omega) (by decide)
    · exact hlast
  have hcode : ((n / 262144 % 8 * 64 + n / 4096 % 64) * 64 + n / 64 % 64) * 64 + n % 64 = n := by
    omega
  rw [lossyFrom_lead hmark hlead, lossyFrom_more hleast' hmost' (by decide),
    lossyFrom_more hthird hthird' (by decide), lossyFrom_last hleast hmost, htail, hvalue', hsecond]
  change
    Char.ofNat ((((UInt8.ofNat (n / 262144 % 8 + 240)).toNat % 8 * 64 + _) * 64 + _) * 64 + _) ::
      _ = _
  rw [hvalue, hcode]

theorem lossyFrom_utf8EncodeChar (c : Char) (bytes : List UInt8) :
    lossyFrom 0 0 0 0 (String.utf8EncodeChar c ++ bytes) = c :: lossyFrom 0 0 0 0 bytes := by
  have hvalid : c.val.toNat.isValidChar := c.valid
  have hback : Char.ofNat c.val.toNat = c := Char.ofNat_toNat c
  rw [String.utf8EncodeChar]
  split
  · rename_i hone
    exact (lossyFrom_of_lt (Nat.lt_succ_of_le hone) bytes).trans (by rw [hback])
  · split
    · exact (lossyFrom_two (by omega) (by assumption) bytes).trans (by rw [hback])
    · split
      · exact (lossyFrom_three (by omega) (by assumption) hvalid bytes).trans (by rw [hback])
      · exact (lossyFrom_four (by omega) hvalid bytes).trans (by rw [hback])

/-! Whole texts -/

theorem lossy_octets (s : String) : lossy (octets s) = s := by
  have hchars : ∀ cs : List Char, lossyFrom 0 0 0 0 (cs.flatMap String.utf8EncodeChar) = cs := by
    intro cs
    induction cs with
    | nil => rfl
    | cons c cs ih => rw [List.flatMap_cons, lossyFrom_utf8EncodeChar, ih]
  rw [lossy, octets_eq, hchars, String.ofList_toList]

end WebService.Text
