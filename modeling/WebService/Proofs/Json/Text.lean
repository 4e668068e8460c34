import WebService.Json.Reader
import WebService.Json.Writer
import WebService.Proofs.Text.Split

/-!
Texts between quotes are read as they were written. One that needs no escape stands there as it is.
-/
namespace WebService.Json

variable {c : Char} {cs rest : List Char} {n : Nat}

theorem hexPadded_of_lt (hn : n < 0x80) : ∃ a b c d, hexPadded n = [a, b, c, d] ∧
    hexValue? a = some 0 ∧ hexValue? b = some 0 ∧ hexValue? c = some (n / 16) ∧
    hexValue? d = some (n % 16) := by
  have hall : ∀ n < 0x80, (hexPadded n).map hexValue? =
      [some 0, some 0, some (n / 16), some (n % 16)] := by decide
  obtain ⟨a, _, htext, ha, h⟩ := List.map_eq_cons_iff.mp (hall n hn)
  obtain ⟨b, _, rfl, hb, h⟩ := List.map_eq_cons_iff.mp h
  obtain ⟨c, _, rfl, hc, h⟩ := List.map_eq_cons_iff.mp h
  obtain ⟨d, _, rfl, hd, h⟩ := List.map_eq_cons_iff.mp h
  cases List.map_eq_nil_iff.mp h
  exact ⟨a, b, c, d, htext, ha, hb, hc, hd⟩

theorem readHex_hexPadded (hn : n < 0x80) (rest : List Char) :
    readHex (hexPadded n ++ rest) = .ok (n, rest) := by
  obtain ⟨a, b, c, d, htext, ha, hb, hc, hd⟩ := hexPadded_of_lt hn
  have hvalue : ((16 * 0 + 0) * 16 + n / 16) * 16 + n % 16 = n := by omega
  simp only [htext, readHex, List.cons_append, List.nil_append, ha, hb, hc, hd, hvalue]

/-- A control is written by its number and read by it. -/
theorem readEscape_control (hc : c.toNat < 0x20) (rest : List Char) :
    readEscape ('u' :: (hexPadded c.toNat ++ rest)) = .ok (c, rest) := by
  have hlow : isLowSurrogate c.toNat = false := by
    simp only [isLowSurrogate, Bool.and_eq_false_iff, decide_eq_false_iff_not]
    omega
  have hhigh : isHighSurrogate c.toNat = false := by
    simp only [isHighSurrogate, Bool.and_eq_false_iff, decide_eq_false_iff_not]
    omega
  have hread := readHex_hexPadded (Nat.lt_trans hc (by decide : 0x20 < 0x80)) rest
  simp [readEscape, hread, hlow, hhigh, bind, Except.bind, pure, Except.pure]

/-- A character is written as an escape that is read as the character, or as it is. -/
theorem escapeChar_cases (c : Char) :
    (∃ escape, escapeChar c = '\\' :: escape ∧ ∀ cs, readEscape (escape ++ cs) = .ok (c, cs)) ∨
      (escapeChar c = [c] ∧ c ≠ '"' ∧ c ≠ '\\' ∧ 0x20 ≤ c.toNat) := by
  by_cases hnamed : c ∈ ['"', '\\', '\x08', '\x0c', '\n', '\r', '\t']
  · simp only [List.mem_cons, List.not_mem_nil, or_false] at hnamed
    rcases hnamed with rfl | rfl | rfl | rfl | rfl | rfl | rfl
    all_goals exact Or.inl ⟨[_], rfl, fun _ => rfl⟩
  · simp only [List.mem_cons, List.not_mem_nil, or_false, not_or] at hnamed
    obtain ⟨hquote, hslash, hbell, hfeed, hline, hreturn, htab⟩ := hnamed
    by_cases hcontrol : c.toNat < 0x20
    · refine Or.inl ⟨'u' :: hexPadded c.toNat, ?_, readEscape_control hcontrol⟩
      simp [escapeChar, hquote, hslash, hbell, hfeed, hline, hreturn, htab, hcontrol]
    · refine Or.inr ⟨?_, hquote, hslash, Nat.le_of_not_lt hcontrol⟩
      simp [escapeChar, hquote, hslash, hbell, hfeed, hline, hreturn, htab, hcontrol]

/-- Characters written for a text are read up to the closing quote. -/
theorem readChars_flatMap_escapeChar (cs rest : List Char) (fuel : Nat) (hfuel : cs.length < fuel) :
    readChars fuel (cs.flatMap escapeChar ++ '"' :: rest) = .ok (cs, rest) := by
  induction cs generalizing fuel with
  | nil =>
    obtain ⟨left, rfl⟩ := Nat.exists_eq_add_one.mpr hfuel
    rfl
  | cons c cs ih =>
    obtain ⟨left, rfl⟩ := Nat.exists_eq_add_one.mpr (Nat.zero_lt_of_lt hfuel)
    have hrest := ih left (Nat.lt_of_succ_lt_succ hfuel)
    rw [List.flatMap_cons, List.append_assoc]
    rcases escapeChar_cases c with ⟨escape, hescape, hread⟩ | ⟨hplain, hquote, hslash, hcontrol⟩
    · simp [hescape, readChars, hread, hrest, bind, Except.bind, pure, Except.pure]
    · simp [hplain, readChars, Nat.not_lt.mpr hcontrol, hrest, bind, Except.bind, pure, Except.pure]

theorem escapeChar_ne_nil (c : Char) : escapeChar c ≠ [] := by
  rcases escapeChar_cases c with ⟨escape, hescape, -⟩ | ⟨hplain, -⟩
  · rw [hescape]
    exact List.cons_ne_nil _ _
  · rw [hplain]
    exact List.cons_ne_nil _ _

theorem readText_written (s : String) (rest : List Char) :
    readText (s.toList.flatMap escapeChar ++ '"' :: rest) = .ok (s, rest) := by
  have hlength := Text.length_le_length_flatMap escapeChar_ne_nil s.toList
  have hfuel : s.toList.length < (s.toList.flatMap escapeChar ++ '"' :: rest).length + 1 := by
    rw [List.length_append, List.length_cons]
    omega
  rw [readText, readChars_flatMap_escapeChar _ _ _ hfuel]
  simp [bind, Except.bind, pure, Except.pure]

/-! Texts without escapes -/

/-- Whether a text can stand between quotes as it is. -/
def IsBare (cs : List Char) : Prop := ∀ c ∈ cs, c ≠ '"' ∧ c ≠ '\\' ∧ 0x20 ≤ c.toNat

theorem escapeChar_of_bare (hquote : c ≠ '"') (hslash : c ≠ '\\') (hcode : 0x20 ≤ c.toNat) :
    escapeChar c = [c] := by
  have hne : ∀ control : Char, control.toNat < 0x20 → c ≠ control := by
    rintro control hcontrol rfl
    omega
  simp [escapeChar, hquote, hslash, hne '\x08' (by decide), hne '\x0c' (by decide),
    hne '\n' (by decide), hne '\r' (by decide), hne '\t' (by decide), Nat.not_lt.mpr hcode]

theorem flatMap_escapeChar_of_isBare (h : IsBare cs) : cs.flatMap escapeChar = cs := by
  induction cs with
  | nil => rfl
  | cons c cs ih =>
    obtain ⟨hquote, hslash, hcode⟩ := h c List.mem_cons_self
    rw [List.flatMap_cons, escapeChar_of_bare hquote hslash hcode,
      ih fun d hd => h d (List.mem_cons_of_mem _ hd)]
    rfl

theorem readText_of_isBare (h : IsBare cs) :
    readText (cs ++ '"' :: rest) = .ok (String.ofList cs, rest) := by
  have hread := readText_written (String.ofList cs) rest
  rwa [String.toList_ofList, flatMap_escapeChar_of_isBare h] at hread

end WebService.Json
