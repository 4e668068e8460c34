import WebService.Proofs.Json.Text
import WebService.Proofs.Number.Integer
import WebService.Toml.Reader

/-!
A way to write texts, keys and integers as TOML, and that they are read as they were written.
-/
namespace WebService.Toml

open Json (hexPadded)
open Number (digitsOf)

/-- Quotes, backslashes and controls are written by their number. -/
def writeChar (c : Char) : List Char :=
  if c = '"' || c = '\\' || !isPlain c then '\\' :: 'u' :: hexPadded c.toNat else [c]

def writeText (s : String) : List Char := '"' :: (s.toList.flatMap writeChar ++ ['"'])

/-- The sign in front tells an integer from a date. -/
def writeInt (i : Int) : List Char := (if i < 0 then '-' else '+') :: digitsOf i.natAbs

variable {c : Char} {cs ds rest : List Char} {fuel n : Nat} {i : Int}

/-- What may stand right behind a value. -/
def IsBehind (rest : List Char) : Prop := ∃ c ∈ [',', '\x7d', '\n'], ∃ cs, rest = c :: cs

theorem isBehind_comma (cs : List Char) : IsBehind (',' :: cs) := ⟨',', by decide, cs, rfl⟩

theorem isBehind_brace (cs : List Char) : IsBehind ('\x7d' :: cs) := ⟨'\x7d', by decide, cs, rfl⟩

theorem isBehind_line (cs : List Char) : IsBehind ('\n' :: cs) := ⟨'\n', by decide, cs, rfl⟩

/-! Texts -/

theorem writeChar_cases (c : Char) :
    (writeChar c = '\\' :: 'u' :: hexPadded c.toNat ∧ c.toNat < 0x80) ∨
      (writeChar c = [c] ∧ c ≠ '"' ∧ c ≠ '\\' ∧ isPlain c = true) := by
  rw [writeChar]
  split
  · rename_i hescaped
    refine Or.inl ⟨rfl, ?_⟩
    simp only [Bool.or_eq_true, decide_eq_true_iff, Bool.not_eq_true', or_assoc] at hescaped
    rcases hescaped with rfl | rfl | hcontrol
    · decide
    · decide
    · simp only [isPlain, Bool.or_eq_false_iff, Bool.and_eq_false_iff,
        decide_eq_false_iff_not] at hcontrol
      omega
  · rename_i hplain
    simp only [Bool.or_eq_true, decide_eq_true_iff, Bool.not_eq_true', not_or,
      Bool.not_eq_false] at hplain
    exact Or.inr ⟨rfl, hplain.1.1, hplain.1.2, hplain.2⟩

/-- A character written by its number is read by it. -/
theorem readEscape?_hexPadded (hc : c.toNat < 0x80) (rest : List Char) :
    readEscape? ('u' :: (hexPadded c.toNat ++ rest)) = some (c, rest) := by
  obtain ⟨w, x, y, z, htext, hw, hx, hy, hz⟩ := Json.hexPadded_of_lt hc
  have hvalid : c.toNat.isValidChar := c.valid
  have hcode : 16 * (c.toNat / 16) + c.toNat % 16 = c.toNat := Nat.div_add_mod _ _
  have hchar : charOfHex? [w, x, y, z] = some c := by
    simp [charOfHex?, hw, hx, hy, hz, hcode, hvalid]
  simp [htext, readEscape?, hchar]

theorem readChars_written (cs rest : List Char) (fuel : Nat) (hfuel : cs.length < fuel) :
    readChars .basic fuel (cs.flatMap writeChar ++ '"' :: rest) = some (cs, rest) := by
  induction cs generalizing fuel with
  | nil =>
    obtain ⟨left, rfl⟩ := Nat.exists_eq_add_one.mpr hfuel
    rfl
  | cons c cs ih =>
    obtain ⟨left, rfl⟩ := Nat.exists_eq_add_one.mpr (Nat.zero_lt_of_lt hfuel)
    have hrest := ih left (Nat.lt_of_succ_lt_succ hfuel)
    rw [List.flatMap_cons, List.append_assoc]
    rcases writeChar_cases c with ⟨hescape, hcode⟩ | ⟨hself, hquote, hslash, hplain⟩
    · have hread := readEscape?_hexPadded hcode (cs.flatMap writeChar ++ '"' :: rest)
      simp [hescape, readChars, Quoting.mark, hread, hrest]
    · simp [hself, readChars, Quoting.mark, hquote, hslash, hplain, hrest]

theorem writeChar_ne_nil (c : Char) : writeChar c ≠ [] := by
  rcases writeChar_cases c with ⟨hescape, -⟩ | ⟨hself, -⟩
  · rw [hescape]
    exact List.cons_ne_nil _ _
  · rw [hself]
    exact List.cons_ne_nil _ _

theorem readLine_written (s : String) (rest : List Char) :
    readLine .basic (s.toList.flatMap writeChar ++ '"' :: rest) = some (s, rest) := by
  have hlength := Text.length_le_length_flatMap writeChar_ne_nil s.toList
  have hfuel : s.toList.length < (s.toList.flatMap writeChar ++ '"' :: rest).length + 1 := by
    rw [List.length_append, List.length_cons]
    omega
  rw [readLine, readChars_written _ _ _ hfuel]
  simp

/-- Only three marks in a row open a text of several lines. -/
theorem readText_eq_readLine (h : ∀ rest, cs ≠ '"' :: '"' :: rest) :
    readText .basic cs = readLine .basic cs := by
  unfold readText
  split
  · rename_i a b rest
    have hmarks : ¬ (a = Quoting.basic.mark ∧ b = Quoting.basic.mark) := by
      rintro ⟨rfl, rfl⟩
      exact h rest rfl
    simp [hmarks]
  · rfl

theorem readText_written (s : String) (hrest : IsBehind rest) :
    readText .basic (s.toList.flatMap writeChar ++ '"' :: rest) = some (s, rest) := by
  rw [readText_eq_readLine, readLine_written]
  intro more heq
  cases hs : s.toList with
  | nil =>
    obtain ⟨c, hc, cs, rfl⟩ := hrest
    rw [hs] at heq
    cases heq
    revert hc
    decide
  | cons c cs =>
    rw [hs, List.flatMap_cons] at heq
    rcases writeChar_cases c with ⟨hescape, -⟩ | ⟨hself, hquote, -⟩
    · rw [hescape] at heq
      cases heq
    · rw [hself] at heq
      exact hquote (List.cons.inj heq).1

/-! Keys -/

theorem skipBlank_cons (h : isBlank c = false) : skipBlank (c :: cs) = c :: cs :=
  List.dropWhile_cons_of_neg (by simp [h])

/-- The key in a pair or a statement, which has no path before it. -/
theorem readPath_writeText (key : String) (rest : List Char) :
    readPath (writeText key ++ '=' :: rest) = some (([], key), '=' :: rest) := by
  have hkey : readKey (writeText key ++ '=' :: rest) = some (key, '=' :: rest) := by
    rw [writeText, List.cons_append, List.append_assoc]
    exact readLine_written key ('=' :: rest)
  have hquote : skipBlank (writeText key ++ '=' :: rest) = writeText key ++ '=' :: rest :=
    skipBlank_cons rfl
  have hequals : skipBlank ('=' :: rest) = '=' :: rest := skipBlank_cons rfl
  have hkeys : readKeys (pathLimit - 1) (writeText key ++ '=' :: rest) =
      some ([key], '=' :: rest) := by
    have hlimit : pathLimit - 1 = 78 + 1 := rfl
    rw [hlimit, readKeys, hquote, hkey]
    simp [hequals]
  simp [readPath, hkeys]

/-! Integers -/

theorem readDigits_append (hc : c.isDigit = true) (hds : ∀ d ∈ ds, d.isDigit = true)
    (hrest : IsBehind rest) :
    readDigits Char.isDigit (c :: (ds ++ rest)) = some (c :: ds, rest) := by
  induction ds generalizing c with
  | nil =>
    obtain ⟨d, hd, cs, rfl⟩ := hrest
    have hmark : d ≠ '_' ∧ d.isDigit = false := by
      simp only [List.mem_cons, List.not_mem_nil, or_false] at hd
      rcases hd with rfl | rfl | rfl
      all_goals exact ⟨by decide, rfl⟩
    simp [readDigits, hc, hmark]
  | cons d ds ih =>
    have hd : d.isDigit = true := hds d List.mem_cons_self
    have hmore := ih hd fun e he => hds e (List.mem_cons_of_mem _ he)
    have hmark : d ≠ '_' := Number.ne_of_isDigit hd rfl
    rw [List.cons_append, readDigits]
    simp [hc, hd, hmark, hmore]

theorem readWhole_digitsOf (n : Nat) (hrest : IsBehind rest) :
    readWhole (digitsOf n ++ rest) = some (digitsOf n, rest) := by
  rcases Nat.eq_zero_or_pos n with rfl | hpos
  · rfl
  · obtain ⟨c, cs, hds, hc⟩ := Number.exists_digitsOf_eq_cons hpos
    have hdigits : ∀ d ∈ c :: cs, d.isDigit = true := by
      intro d hd
      exact Number.isDigit_of_mem_digitsOf (hds ▸ hd)
    have hread := readDigits_append (hdigits c List.mem_cons_self)
      (fun d hd => hdigits d (List.mem_cons_of_mem _ hd)) hrest
    rw [hds, List.cons_append, ← hread]
    unfold readWhole
    split
    · rename_i heq
      exact absurd (List.cons.inj heq).1 hc
    · rfl

theorem readUnsigned_digitsOf {negative : Bool} (hi : (if negative then -(n : Int) else n) = i)
    (hbounds : integer? i = some i) (hrest : IsBehind rest) :
    readUnsigned negative (digitsOf n ++ rest) = some (.whole i, rest) := by
  have hwhole := readWhole_digitsOf n hrest
  have hdecimal : readDecimal negative (digitsOf n ++ rest) = some (.whole i, rest) := by
    obtain ⟨c, hc, cs, rfl⟩ := hrest
    simp only [List.mem_cons, List.not_mem_nil, or_false] at hc
    rw [readDecimal, hwhole]
    rcases hc with rfl | rfl | rfl
    all_goals simp [Number.natOfDigits_digitsOf, hi, hbounds]
  obtain ⟨c, cs, hds, hc⟩ := Number.exists_digit_digitsOf n
  rw [hds, List.cons_append] at hdecimal ⊢
  unfold readUnsigned
  split
  · rename_i heq
    exact absurd (List.cons.inj heq).1 (Number.ne_of_isDigit hc rfl)
  · rename_i heq
    exact absurd (List.cons.inj heq).1 (Number.ne_of_isDigit hc rfl)
  · exact hdecimal

theorem readMoment?_of_sign (hc : c.isDigit = false) : readMoment? (c :: cs) = none := by
  simp [readMoment?, readDate?, readTime?, readPair?, Calendar.scanDigits, hc]

theorem readNumeric_writeInt (hbounds : integer? i = some i) (hrest : IsBehind rest) :
    readNumeric (writeInt i ++ rest) = some (.integer i, rest) := by
  rw [writeInt]
  split
  · have hi : (if true then -(i.natAbs : Int) else i.natAbs) = i := by
      rw [if_pos rfl]
      omega
    have hread := readUnsigned_digitsOf hi hbounds hrest
    rw [List.cons_append, readNumeric, readMoment?_of_sign rfl, readNumber, hread]
    rfl
  · have hi : (if false then -(i.natAbs : Int) else i.natAbs) = i := by
      rw [if_neg Bool.false_ne_true]
      omega
    have hread := readUnsigned_digitsOf hi hbounds hrest
    rw [List.cons_append, readNumeric, readMoment?_of_sign rfl, readNumber, hread]
    rfl

end WebService.Toml
