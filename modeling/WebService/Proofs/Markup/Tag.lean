import WebService.Markup.Writer
import WebService.Proofs.Markup.Reading

/-!
Written tags and texts, each read as one event: a name holds no mark of a tag, and a value stands in
quotes that it does not hold.
-/
namespace WebService.Markup

variable {name : String} {attributes : List (String × String)} {c : Char}
  {content cs cs' rest text : List Char} {opened : List (List Char)} {s : Source}

/-! Names and escaped texts -/

/-- Characters with a meaning of their own between the brackets of a tag. -/
def tagMarks : List Char := ['<', '>', '"', '\'', '/', ' ', '\t', '\r', '\n']

theorem not_mem_tagMarks (h : isNameChar c = true) : c ∉ tagMarks := by
  have hmarks : (tagMarks.all fun m => !isNameChar m) = true := by decide
  intro hm
  have hc := List.all_eq_true.mp hmarks c hm
  rw [h] at hc
  cases hc

theorem isNameChar_of_mem (h : isName name = true) (hc : c ∈ name.toList) :
    isNameChar c = true := by
  unfold isName at h
  split at h
  · cases h
  · rename_i first others hname
    simp only [Bool.and_eq_true, List.all_eq_true] at h
    rw [hname] at hc
    rcases List.mem_cons.mp hc with rfl | hc
    · simp only [isNameStart, Bool.or_eq_true] at h
      simp only [isNameChar, Text.isAlphanumeric, Bool.or_eq_true]
      rcases h.1 with (ha | hu) | hcolon
      · exact Or.inl (Or.inl (Or.inl (Or.inl (Or.inl ha))))
      · exact Or.inl (Or.inl (Or.inl (Or.inr hu)))
      · exact Or.inr hcolon
    · exact h.2 c hc

theorem isName_cons (h : isName name = true) :
    ∃ first others, name.toList = first :: others ∧ isNameStart first = true := by
  unfold isName at h
  split at h
  · cases h
  · rename_i first others hname
    simp only [Bool.and_eq_true] at h
    exact ⟨first, others, hname, h.1⟩

/-- Names without marks, as tags begin with. -/
def IsTagName (cs : List Char) : Prop := cs ≠ [] ∧ ∀ c ∈ cs, c ∉ '!' :: '?' :: tagMarks

theorem isTagName_of_isName (h : isName name = true) : IsTagName name.toList := by
  obtain ⟨first, others, hname, -⟩ := isName_cons h
  refine ⟨by simp [hname], ?_⟩
  intro c hc
  have hchar := isNameChar_of_mem h hc
  simp only [List.mem_cons, not_or]
  refine ⟨?_, ?_, not_mem_tagMarks hchar⟩
  · rintro rfl
    exact absurd hchar (by decide)
  · rintro rfl
    exact absurd hchar (by decide)

/-- The characters that are written as references. -/
def escapedMarks : List Char := ['<', '>', '&', '\'', '"']

theorem escapeChar_of_not_mem (h : c ∉ escapedMarks) : escapeChar c = [c] := by
  simp only [escapedMarks, List.mem_cons, List.not_mem_nil, or_false, not_or] at h
  simp [escapeChar, h]

theorem not_mem_escape {mark : Char} (hm : mark = '<' ∨ mark = '"') (s : String) :
    mark ∉ escape s := by
  have hreferences : (escapedMarks.all fun c => !(escapeChar c).contains mark) = true := by
    rcases hm with rfl | rfl <;> decide
  have hmark : mark ∈ escapedMarks := by
    rcases hm with rfl | rfl <;> decide
  simp only [escape, List.mem_flatMap, not_exists, not_and]
  intro c _
  by_cases hc : c ∈ escapedMarks
  · have hreference := List.all_eq_true.mp hreferences c hc
    simpa using hreference
  · rw [escapeChar_of_not_mem hc, List.mem_singleton]
    exact fun h => hc (h ▸ hmark)

/-! Tags -/

/-- Whether a tag goes on behind a text that stands in it. -/
def IsTagText (cs : List Char) : Prop :=
  ∀ before rest, scanTag none before (cs ++ rest) = scanTag none (cs.reverse ++ before) rest

theorem IsTagText.append (h : IsTagText cs) (h' : IsTagText cs') : IsTagText (cs ++ cs') := by
  intro before rest
  rw [List.append_assoc, h, h', List.reverse_append, List.append_assoc]

theorem IsTagText.scanTag (h : IsTagText cs) (rest : List Char) :
    scanTag none [] (cs ++ '>' :: rest) = some (cs, rest) := by
  rw [h]
  simp [Markup.scanTag]

theorem isTagText_of_not_mem (h : ∀ c ∈ cs, c ≠ '>' ∧ c ≠ '"' ∧ c ≠ '\'') : IsTagText cs := by
  induction cs with
  | nil => exact fun before rest => rfl
  | cons c cs ih =>
    intro before rest
    obtain ⟨hclose, hdouble, hsingle⟩ := h c List.mem_cons_self
    have hcs := ih fun c hc => h c (List.mem_cons_of_mem _ hc)
    rw [List.cons_append, Markup.scanTag]
    simp [hclose, hdouble, hsingle, hcs (c :: before) rest]

theorem isTagText_singleton (h : c ≠ '>' ∧ c ≠ '"' ∧ c ≠ '\'') : IsTagText [c] :=
  isTagText_of_not_mem (List.forall_mem_singleton.mpr h)

theorem isTagText_of_forall_isSpace (h : ∀ c ∈ cs, isSpace c = true) : IsTagText cs := by
  apply isTagText_of_not_mem
  intro c hc
  have hspace := h c hc
  refine ⟨?_, ?_, ?_⟩
  all_goals
    rintro rfl
    cases hspace

theorem scanTag_quoted {quote : Char} (h : quote ∉ cs) (before rest : List Char) :
    scanTag (some quote) before (cs ++ quote :: rest) =
      scanTag none (quote :: (cs.reverse ++ before)) rest := by
  induction cs generalizing before with
  | nil => simp [scanTag]
  | cons c cs ih =>
    have hc : c ≠ quote := fun hc => h (hc ▸ List.mem_cons_self)
    have hcs := ih (fun hc => h (List.mem_cons_of_mem _ hc)) (c :: before)
    simpa [scanTag, hc] using hcs

theorem isTagText_quoted {quote : Char} (hquote : quote = '"' ∨ quote = '\'') (h : quote ∉ cs) :
    IsTagText (quote :: (cs ++ [quote])) := by
  intro before rest
  have hquoted := scanTag_quoted h (quote :: before) rest
  rcases hquote with rfl | rfl
  · simpa [scanTag] using hquoted
  · simpa [scanTag] using hquoted

theorem IsTagName.isTagText (h : IsTagName cs) : IsTagText cs := by
  apply isTagText_of_not_mem
  intro c hc
  have hmarks := h.2 c hc
  simp only [tagMarks, List.mem_cons, not_or] at hmarks
  exact ⟨hmarks.2.2.2.1, hmarks.2.2.2.2.1, hmarks.2.2.2.2.2.1⟩

theorem isTagText_writeAttributes (h : ∀ a ∈ attributes, isName a.1 = true) :
    IsTagText (writeAttributes attributes) := by
  induction attributes with
  | nil => exact fun before rest => rfl
  | cons first others ih =>
    obtain ⟨name, value⟩ := first
    have hname : isName name = true := h (name, value) List.mem_cons_self
    have hothers := ih fun a ha => h a (List.mem_cons_of_mem _ ha)
    have hvalue := isTagText_quoted (.inl rfl) (not_mem_escape (Or.inr rfl) value)
    have hblank : IsTagText [' '] := isTagText_singleton (by decide)
    have hequals : IsTagText ['='] := isTagText_singleton (by decide)
    have htext := (isTagName_of_isName hname).isTagText
    have hfirst := hblank.append (htext.append (hequals.append hvalue))
    have hall := hfirst.append hothers
    simpa [writeAttributes] using hall

theorem writeAttributes_cons_eq (first : String × String) (others : List (String × String)) :
    ∃ cs, writeAttributes (first :: others) = cs ++ ['"'] := by
  induction others generalizing first with
  | nil =>
    exact ⟨' ' :: (first.1.toList ++ '=' :: '"' :: escape first.2), by simp [writeAttributes]⟩
  | cons second others ih =>
    obtain ⟨cs, hcs⟩ := ih second
    refine ⟨writeAttributes [first] ++ cs, ?_⟩
    rw [List.append_assoc, ← hcs]
    simp [writeAttributes]

/-! The two parts of a tag -/

/-- What may stand behind the name in a tag. -/
structure IsTagTail (cs : List Char) : Prop where
  isTagText : IsTagText cs
  getLast? : cs.getLast? ≠ some '/'
  head? : ∀ c, cs.head? = some c → isSpace c = true

/-- A tag with attributes ends in a quote. -/
theorem isTagTail_writeAttributes (h : ∀ a ∈ attributes, isName a.1 = true) :
    IsTagTail (writeAttributes attributes) := by
  refine ⟨isTagText_writeAttributes h, ?_, ?_⟩
  · cases attributes with
    | nil => simp [writeAttributes]
    | cons first others =>
      obtain ⟨cs, hcs⟩ := writeAttributes_cons_eq first others
      simp [hcs]
  · intro c hc
    cases attributes with
    | nil => cases hc
    | cons first others =>
      cases hc
      rfl

section

variable {tagName tail blank : List Char}

theorem IsTagName.ne_of_mem (h : IsTagName tagName) (hc : c ∈ tagName) :
    c ≠ '!' ∧ c ≠ '?' ∧ c ≠ '/' ∧ isSpace c = false := by
  have hmarks := h.2 c hc
  simp only [tagMarks, List.mem_cons, List.not_mem_nil, or_false, not_or] at hmarks
  simp [isSpace, hmarks]

theorem nameOf_append (hname : IsTagName tagName) (htail : IsTagTail tail) :
    nameOf (tagName ++ tail) = tagName := by
  have hall : ∀ c ∈ tagName, (!isSpace c) = true := by
    intro c hc
    simp [(hname.ne_of_mem hc).2.2.2]
  rw [nameOf, List.takeWhile_append_of_pos hall]
  cases tail with
  | nil => simp
  | cons c cs => simp [htail.head? c rfl]

theorem getLast?_append_tail (hname : IsTagName tagName) (htail : IsTagTail tail) :
    (tagName ++ tail).getLast? ≠ some '/' := by
  intro hlast
  rw [List.getLast?_append] at hlast
  cases htaillast : tail.getLast? with
  | none =>
    rw [htaillast] at hlast
    exact (hname.ne_of_mem (List.mem_of_getLast? hlast)).2.2.1 rfl
  | some c =>
    rw [htaillast] at hlast
    exact htail.getLast? (htaillast.trans hlast)

theorem trimName_append (hname : IsTagName tagName) (hblank : ∀ c ∈ blank, isSpace c = true) :
    trimName (tagName ++ blank) = tagName := by
  have hdrop : (tagName ++ blank).reverse.dropWhile isSpace = tagName.reverse := by
    rw [List.reverse_append, List.dropWhile_append_of_pos (by simpa using hblank)]
    cases hr : tagName.reverse with
    | nil => rfl
    | cons c cs =>
      have hc : c ∈ tagName := List.mem_reverse.mp (hr ▸ List.mem_cons_self)
      simp [(hname.ne_of_mem hc).2.2.2]
  rw [trimName, hdrop]
  simp [hname.1]

/-! Tags as events -/

theorem startTag_of_getLast? (h : content.getLast? ≠ some '/') : s.startTag content rest =
    .ok (.start (nameOf content), ⟨rest, nameOf content :: s.opened⟩) := by
  unfold Source.startTag
  split
  · rename_i reversed hreversed
    rw [List.getLast?_eq_head?_reverse, hreversed] at h
    exact absurd rfl h
  · rfl

theorem startTag_slash : s.startTag (content ++ ['/']) rest =
    .ok (.empty (nameOf content), ⟨rest, s.opened⟩) := by
  simp [Source.startTag, Source.plain]

theorem markup_of_isTagText : IsTagText cs → cs.head? ≠ some '!' → cs.head? ≠ some '?' →
    s.markup (cs ++ '>' :: rest) =
      match cs with
      | '/' :: name => s.endTag name rest
      | _ => s.startTag cs rest := by
  intro h hbang hquestion
  unfold Source.markup
  split
  · rename_i tail hcs
    cases cs with
    | nil => cases hcs
    | cons c cs => exact absurd (congrArg List.head? hcs) hbang
  · rename_i tail hcs
    cases cs with
    | nil => cases hcs
    | cons c cs => exact absurd (congrArg List.head? hcs) hquestion
  · exact h.scanTag rest ▸ rfl

/-- A tag that begins with a name is a start tag. -/
theorem markup_of_isTagName (s : Source) (rest : List Char) (hname : IsTagName tagName)
    (h : IsTagText (tagName ++ cs)) :
    s.markup (tagName ++ cs ++ '>' :: rest) = s.startTag (tagName ++ cs) rest := by
  cases tagName with
  | nil => exact absurd rfl hname.1
  | cons first others =>
    obtain ⟨hbang, hquestion, hslash, -⟩ := hname.ne_of_mem List.mem_cons_self
    rw [markup_of_isTagText h (by simpa using hbang) (by simpa using hquestion)]
    split
    · rename_i name hcs
      exact absurd (List.cons.inj hcs).1 hslash
    · rfl

theorem next_markup (chunk : List Char) :
    (⟨'<' :: chunk, opened⟩ : Source).next =
      (Source.markup ⟨'<' :: chunk, opened⟩ chunk).map some := rfl

theorem next_start (hname : IsTagName tagName) (htail : IsTagTail tail) (rest : List Char)
    (opened : List (List Char)) :
    (⟨'<' :: (tagName ++ tail ++ '>' :: rest), opened⟩ : Source).next =
      .ok (some (.start tagName, ⟨rest, tagName :: opened⟩)) := by
  have htag := hname.isTagText.append htail.isTagText
  rw [next_markup, markup_of_isTagName _ _ hname htag,
    startTag_of_getLast? (getLast?_append_tail hname htail), nameOf_append hname htail]
  rfl

theorem next_empty (hname : IsTagName tagName) (htail : IsTagTail tail) (rest : List Char)
    (opened : List (List Char)) :
    (⟨'<' :: (tagName ++ tail ++ '/' :: '>' :: rest), opened⟩ : Source).next =
      .ok (some (.empty tagName, ⟨rest, opened⟩)) := by
  have hslash : IsTagText ['/'] := isTagText_singleton (by decide)
  have htag := hname.isTagText.append (htail.isTagText.append hslash)
  have hmarkup := markup_of_isTagName ⟨'<' :: (tagName ++ tail ++ '/' :: '>' :: rest), opened⟩
    rest hname htag
  rw [← List.append_assoc, startTag_slash, nameOf_append hname htail] at hmarkup
  rw [next_markup]
  simp only [List.append_assoc, List.cons_append, List.nil_append] at hmarkup ⊢
  rw [hmarkup]
  rfl

theorem next_finish (hname : IsTagName tagName) (hblank : ∀ c ∈ blank, isSpace c = true)
    (rest : List Char) (opened : List (List Char)) :
    (⟨'<' :: '/' :: (tagName ++ blank ++ '>' :: rest), tagName :: opened⟩ : Source).next =
      .ok (some (.finish tagName, ⟨rest, opened⟩)) := by
  have hslash : IsTagText ['/'] := isTagText_singleton (by decide)
  have htag : IsTagText ('/' :: (tagName ++ blank)) :=
    hslash.append (hname.isTagText.append (isTagText_of_forall_isSpace hblank))
  have hmarkup : ∀ s : Source, s.markup ('/' :: (tagName ++ blank) ++ '>' :: rest) =
      s.endTag (tagName ++ blank) rest :=
    fun _ => markup_of_isTagText htag (by simp) (by simp)
  rw [next_markup, ← List.cons_append, hmarkup]
  simp [Source.endTag, trimName_append hname hblank, Except.map]

end

/-- Text goes on up to the next mark, or to the end. -/
theorem next_text (h : '<' ∉ text) (hne : text ≠ []) (hrest : rest = [] ∨ ∃ cs, rest = '<' :: cs)
    (opened : List (List Char)) : (⟨text ++ rest, opened⟩ : Source).next =
      .ok (some (.text text, ⟨rest, opened⟩)) := by
  have hall : ∀ c ∈ text, decide (c ≠ '<') = true := by
    intro c hc
    exact decide_eq_true fun he => h (he ▸ hc)
  have htaken : rest.takeWhile (· ≠ '<') = [] ∧ rest.dropWhile (· ≠ '<') = rest := by
    rcases hrest with rfl | ⟨cs, rfl⟩
    · simp
    · simp
  unfold Source.next
  split
  · rename_i hnil
    exact absurd (List.append_eq_nil_iff.mp hnil).1 hne
  · rename_i chunk hmark
    cases text with
    | nil => exact absurd rfl hne
    | cons c cs => exact absurd ((List.cons.inj hmark).1 ▸ List.mem_cons_self) h
  · rw [List.takeWhile_append_of_pos hall, List.dropWhile_append_of_pos hall, htaken.1, htaken.2,
      List.append_nil]

end WebService.Markup
