import WebService.Proofs.Markup.Grammar
import WebService.Proofs.Markup.Written
import WebService.Proofs.Text.Split

/-!
Every document of the grammar is accepted: it is read to its end, and its tags nest under one root.
-/
namespace WebService.Markup

variable {a : Alphabet} {c quote : Char} {closes : List Char → Bool} {names : List (List Char)}
  {name value blank body before behind cs front lead rest tail : List Char}
  {opened : List (List Char)} {s : Source} {event : Event} {events : List Event}

/-! Tags -/

theorem not_mem_of_isBlank {mark : Char} (h : IsBlank cs) (hmark : isSpace mark = false) :
    mark ∉ cs :=
  Text.not_mem_of_forall h hmark

namespace Alphabet

/-- Whether names hold no marks of markup. -/
def IsApart (a : Alphabet) : Prop :=
  ∀ m ∈ '!' :: '?' :: tagMarks, a.isNameStart m = false ∧ a.isNameChar m = false

theorem isApart_xml : xml.IsApart := by
  have hmarks : (('!' :: '?' :: tagMarks).all fun m =>
      !xml.isNameStart m && !xml.isNameChar m) = true := by decide
  intro m hm
  simpa using List.all_eq_true.mp hmarks m hm

theorem IsName.isTagName (ha : a.IsApart) (h : a.IsName name) : IsTagName name := by
  cases name with
  | nil => exact h.elim
  | cons c cs =>
    refine ⟨List.cons_ne_nil _ _, ?_⟩
    intro d hd hmark
    obtain ⟨hstart, hchar⟩ := ha d hmark
    rcases List.mem_cons.mp hd with rfl | hd
    · rw [h.1] at hstart
      cases hstart
    · rw [h.2 d hd] at hchar
      cases hchar

/-- No reference holds a mark that ends a text or a value. -/
theorem IsReference.not_mem {mark : Char} (h : a.IsReference cs)
    (hmark : mark ∈ ['<', '"', '\'']) : mark ∉ cs := by
  simp only [List.mem_cons, List.not_mem_nil, or_false] at hmark
  cases h with
  | @named name hname =>
    have hnames : (["lt", "gt", "amp", "apos", "quot"].all fun name =>
        !('&' :: (name.toList ++ [';'])).contains mark) = true := by
      rcases hmark with rfl | rfl | rfl
      all_goals decide
    simpa using List.all_eq_true.mp hnames name hname
  | @decimal _ digits _ hdigits =>
    have hmem : mark ∉ digits := by
      intro hm
      simp only [Number.allDigits, Bool.and_eq_true, List.all_eq_true] at hdigits
      have hdigit := hdigits.2 mark hm
      rcases hmark with rfl | rfl | rfl
      all_goals cases hdigit
    rcases hmark with rfl | rfl | rfl
    all_goals simpa using hmem
  | @hexadecimal _ digits _ _ hdigits =>
    have hmem : mark ∉ digits := by
      intro hm
      have hdigit := hdigits mark hm
      rcases hmark with rfl | rfl | rfl
      all_goals cases hdigit
    rcases hmark with rfl | rfl | rfl
    all_goals simpa using hmem

theorem IsValue.not_mem (hquote : quote = '"' ∨ quote = '\'') (h : a.IsValue quote cs) :
    quote ∉ cs := by
  induction h with
  | nil => exact List.not_mem_nil
  | char _ hplain _ ih =>
    simp only [List.mem_cons, List.not_mem_nil, or_false, not_or] at hplain
    simp only [List.mem_cons, not_or]
    exact ⟨fun he => hplain.2.2 he.symm, ih⟩
  | reference hfirst _ ih =>
    rw [List.mem_append, not_or]
    refine ⟨hfirst.not_mem ?_, ih⟩
    rcases hquote with rfl | rfl
    · decide
    · decide

end Alphabet

theorem Sets.isTagText (h : Sets name quote value cs) (hname : IsTagText name)
    (hvalue : quote ∉ value) : IsTagText cs := by
  obtain ⟨hquote, blank, before, behind, -, hblank, hbefore, hbehind, rfl⟩ := h
  have hequals : IsTagText ['='] := isTagText_singleton (by decide)
  exact (isTagText_of_forall_isSpace hblank).append <| hname.append <|
    (isTagText_of_forall_isSpace hbefore).append <| hequals.append <|
    (isTagText_of_forall_isSpace hbehind).append (isTagText_quoted hquote hvalue)

theorem Sets.getLast? (h : Sets name quote value cs) : cs.getLast? = some quote := by
  obtain ⟨-, blank, before, behind, -, -, -, -, rfl⟩ := h
  simp [List.getLast?_append, List.getLast?_cons]

theorem Sets.head? (h : Sets name quote value cs) :
    ∃ c others, cs = c :: others ∧ isSpace c = true := by
  obtain ⟨-, blank, before, behind, hne, hblank, -, -, rfl⟩ := h
  cases blank with
  | nil => exact absurd rfl hne
  | cons c others => exact ⟨c, _, rfl, hblank c List.mem_cons_self⟩

theorem Alphabet.IsAttributes.isTagTail (ha : a.IsApart) (h : a.IsAttributes names cs) :
    IsTagTail cs := by
  induction h with
  | @nil cs hblank =>
    refine ⟨isTagText_of_forall_isSpace hblank, ?_, ?_⟩
    · exact fun hlast => not_mem_of_isBlank hblank rfl (List.mem_of_getLast? hlast)
    · exact fun c hc => hblank c (List.mem_of_mem_head? hc)
  | @cons name value first cs names quote hname hvalue hfirst _ ih =>
    have hquote := hfirst.1
    refine ⟨?_, ?_, ?_⟩
    · exact (hfirst.isTagText (hname.isTagName ha).isTagText (hvalue.not_mem hquote)).append
        ih.isTagText
    · intro hlast
      rw [List.getLast?_append, hfirst.getLast?] at hlast
      rcases Option.or_eq_some_iff.mp hlast with hlast | ⟨-, hlast⟩
      · exact ih.getLast? hlast
      · cases hlast
        exact absurd hquote (by decide)
    · obtain ⟨c, others, rfl, hspace⟩ := hfirst.head?
      intro d hd
      cases hd
      exact hspace

/-! Comments, data and instructions -/

theorem scanTo_append (hfront : ∀ front behind, cs = front ++ '>' :: behind →
      closes (front.reverse ++ before) = false)
    (hend : closes (cs.reverse ++ before) = true) (rest : List Char) :
    scanTo closes before (cs ++ '>' :: rest) = some (before.reverse ++ cs, rest) := by
  induction cs generalizing before with
  | nil =>
    have hcloses : closes before = true := hend
    simp [scanTo, hcloses]
  | cons c cs ih =>
    have hopen : (c = '>' && closes before) = false := by
      by_cases hc : c = '>'
      · subst hc
        exact hfront [] cs rfl
      · simp [hc]
    have hmore : ∀ front behind, cs = front ++ '>' :: behind →
        closes (front.reverse ++ c :: before) = false := by
      intro front behind hcs
      simpa using hfront (c :: front) behind (by rw [hcs]; rfl)
    rw [List.cons_append, scanTo, hopen]
    simpa using ih hmore (by simpa using hend)

/-- Where an angle bracket stands, if it stands in the middle of a text only. -/
theorem exists_of_bracket (h : lead ++ (body ++ tail) = front ++ '>' :: behind) (hlead : '>' ∉ lead)
    (htail : '>' ∉ tail) :
    ∃ inner later, front = lead ++ inner ∧ body = inner ++ '>' :: later := by
  obtain ⟨inner, hinner, hbody⟩ : ∃ inner, front = lead ++ inner ∧
      body ++ tail = inner ++ '>' :: behind := by
    rcases List.append_eq_append_iff.mp h with ⟨inner, hfront, hbody⟩ | ⟨cut, hcut, hbody⟩
    · exact ⟨inner, hfront, hbody⟩
    · cases cut with
      | nil => exact ⟨[], by simpa using hcut.symm, by simpa using hbody.symm⟩
      | cons c cs =>
        have hc : c = '>' := (List.cons.inj hbody).1.symm
        exact absurd (by simp [hcut, hc]) hlead
  rcases List.append_eq_append_iff.mp hbody with ⟨cut, -, hcut⟩ | ⟨later, hlater, hcut⟩
  · exact absurd (by simp [hcut]) htail
  · cases later with
    | nil =>
      rw [List.nil_append] at hcut
      exact absurd (hcut ▸ List.mem_cons_self) htail
    | cons c cs =>
      have hc : c = '>' := (List.cons.inj hcut).1.symm
      exact ⟨inner, cs, hinner, hc ▸ hlater⟩

/-- What is scanned between a lead and a tail that hold no angle bracket. -/
theorem scanTo_of_lead (closes : List Char → Bool) (lead body tail rest : List Char)
    (hlead : '>' ∉ lead) (htail : '>' ∉ tail)
    (hbody : ∀ front behind, body = front ++ '>' :: behind →
      closes (front.reverse ++ lead.reverse) = false)
    (hend : closes (tail.reverse ++ (body.reverse ++ lead.reverse)) = true) :
    scanTo closes [] (lead ++ (body ++ tail) ++ '>' :: rest) =
      some (lead ++ (body ++ tail), rest) := by
  refine scanTo_append ?_ (by simpa using hend) rest
  intro front behind hcs
  obtain ⟨inner, later, rfl, hinner⟩ := exists_of_bracket hcs hlead htail
  simpa using hbody inner later hinner

/-- Whether a text begins with a mark and is read as one event of a sort, whatever stands behind. -/
def IsRead (sort : Event → Bool) (cs : List Char) : Prop :=
  (∃ more, cs = '<' :: more) ∧ ∀ rest opened, ∃ event, sort event = true ∧
    (⟨cs ++ rest, opened⟩ : Source).next = .ok (some (event, ⟨rest, opened⟩))

theorem exists_of_endsWithMarks {mark : Char}
    (h : endsWithMarks mark (front.reverse ++ before) = true) (hlength : 2 ≤ front.length) :
    ∃ more, front = more ++ [mark, mark] := by
  obtain ⟨reversed, rfl⟩ : ∃ reversed : List Char, front = reversed.reverse :=
    ⟨front.reverse, by simp⟩
  match reversed with
  | [] => simp at hlength
  | [_] => simp at hlength
  | x :: y :: more =>
    simp only [List.reverse_reverse, List.cons_append, endsWithMarks, Bool.and_eq_true,
      decide_eq_true_eq] at h
    exact ⟨more.reverse, by simp [h.1, h.2]⟩

theorem isRead_of_isComment (h : a.IsComment cs) : IsRead Event.isOuter cs := by
  obtain ⟨body, rfl, -, hbody⟩ := h
  refine ⟨⟨_, rfl⟩, fun rest opened => ?_⟩
  have hscan := scanTo_of_lead (fun before => 4 < before.length && endsWithMarks '-' before)
    ['!', '-', '-'] body ['-', '-'] rest (by decide) (by decide) ?_ (by simp [endsWithMarks])
  · refine ⟨.comment ((body ++ ['-', '-']).take ((body ++ ['-', '-']).length - 2)), rfl, ?_⟩
    have htext : "<!--".toList ++ (body ++ "-->".toList) ++ rest =
        '<' :: (['!', '-', '-'] ++ (body ++ ['-', '-']) ++ '>' :: rest) := by simp
    rw [htext, next_markup]
    simp only [List.cons_append, List.nil_append, Source.markup, Source.bang] at hscan ⊢
    rw [hscan]
    rfl
  · intro front behind hfront
    rw [Bool.eq_false_iff]
    intro hcloses
    simp only [Bool.and_eq_true, decide_eq_true_eq, List.length_append, List.length_reverse,
      List.length_cons, List.length_nil] at hcloses
    -- An earlier end would put two dashes into the body.
    obtain ⟨more, rfl⟩ := exists_of_endsWithMarks hcloses.2 (by omega)
    refine hbody ⟨more, '>' :: (behind ++ ['-']), ?_⟩
    simp [hfront]

theorem isRead_of_isDataSection (h : a.IsDataSection cs) : IsRead (!·.isTag) cs := by
  obtain ⟨body, rfl, -, hbody⟩ := h
  refine ⟨⟨_, rfl⟩, fun rest opened => ?_⟩
  have hscan := scanTo_of_lead (endsWithMarks ']') ['!', '[', 'C', 'D', 'A', 'T', 'A', '['] body
    [']', ']'] rest (by decide) (by decide) ?_ (by simp [endsWithMarks])
  · refine ⟨.data ((body ++ [']', ']']).take ((body ++ [']', ']']).length - 2)), rfl, ?_⟩
    have htext : "<![CDATA[".toList ++ (body ++ "]]>".toList) ++ rest =
        '<' :: (['!', '[', 'C', 'D', 'A', 'T', 'A', '['] ++ (body ++ [']', ']']) ++
          '>' :: rest) := by simp
    rw [htext, next_markup]
    simp only [List.cons_append, List.nil_append, Source.markup, Source.bang] at hscan ⊢
    rw [hscan]
    rfl
  · intro front behind hfront
    rw [Bool.eq_false_iff]
    intro hcloses
    have hlength : 2 ≤ front.length := by
      match front with
      | [] => cases hcloses
      | [c] => simp [endsWithMarks] at hcloses
      | _ :: _ :: _ => simp
    obtain ⟨more, rfl⟩ := exists_of_endsWithMarks hcloses hlength
    refine hbody ⟨more, behind, ?_⟩
    simp [hfront]

/-- A text between question marks is an instruction or a declaration. -/
theorem isRead_question (target body : List Char) (htarget : '>' ∉ target)
    (hlast : ∃ c others, target = others ++ [c] ∧ c ≠ '?') (hbody : ¬ "?>".toList <:+: body) :
    IsRead Event.isOuter ("<?".toList ++ (target ++ (body ++ "?>".toList))) := by
  refine ⟨⟨_, rfl⟩, fun rest opened => ?_⟩
  obtain ⟨c, others, rfl, hc⟩ := hlast
  have hscan := scanTo_of_lead (fun before => before.head? == some '?') ('?' :: (others ++ [c]))
    body ['?'] rest (by simpa using htarget) (by decide) ?_ (by simp)
  · have htext : "<?".toList ++ (others ++ [c] ++ (body ++ "?>".toList)) ++ rest =
        '<' :: ('?' :: (others ++ [c]) ++ (body ++ ['?']) ++ '>' :: rest) := by simp
    have hlength : ¬ ('?' :: (others ++ [c]) ++ (body ++ ['?'])).length < 2 := by
      simp only [List.length_append, List.length_cons, List.length_nil]
      omega
    rw [htext, next_markup]
    simp only [List.cons_append, Source.markup, Source.question] at hscan hlength ⊢
    rw [hscan]
    simp only [hlength, if_false]
    split
    · exact ⟨_, rfl, rfl⟩
    · exact ⟨_, rfl, rfl⟩
  · intro front behind hfront
    rw [Bool.eq_false_iff]
    intro hcloses
    rcases List.eq_nil_or_concat front with rfl | ⟨more, d, rfl⟩
    · exact hc (by simpa using hcloses)
    · have hd : d = '?' := by simpa using hcloses
      refine hbody ⟨more, behind, ?_⟩
      simp [hfront, hd]

theorem isRead_of_isInstruction (ha : a.IsApart) (h : a.IsInstruction cs) :
    IsRead Event.isOuter cs := by
  obtain ⟨target, body, rfl, htarget, -, -, -, hbody⟩ := h
  obtain ⟨hne, hmarks⟩ := htarget.isTagName ha
  have hclose : '>' ∉ target := fun hc => hmarks '>' hc (by decide)
  obtain ⟨others, c, hc⟩ := (List.eq_nil_or_concat target).resolve_left hne
  have hlast : c ≠ '?' := by
    rintro rfl
    exact hmarks '?' (by simp [hc]) (by decide)
  rw [List.concat_eq_append] at hc
  exact isRead_question target body hclose ⟨c, others, hc, hlast⟩ hbody

theorem Sets.not_mem (h : Sets name quote value cs) (hname : '>' ∉ name) (hvalue : '>' ∉ value) :
    '>' ∉ cs := by
  obtain ⟨hquote, blank, before, behind, -, hblank, hbefore, hbehind, rfl⟩ := h
  have hne : '>' ≠ quote := by
    rcases hquote with rfl | rfl
    · decide
    · decide
  have hspaces : ∀ {ds}, IsBlank ds → '>' ∉ ds := fun hds => not_mem_of_isBlank hds rfl
  simp [hspaces hblank, hspaces hbefore, hspaces hbehind, hname, hvalue, hne]

theorem isRead_of_isDeclaration (h : IsDeclaration cs) : IsRead Event.isOuter cs := by
  obtain ⟨version, encoding, standalone, blank, rfl, hversion, hencoding, hstandalone, hblank⟩ := h
  have hversions : '>' ∉ version := by
    obtain ⟨quote, value, ⟨digits, -, hdigits, rfl⟩, hsets⟩ := hversion
    refine hsets.not_mem (by decide) ?_
    have hmem : '>' ∉ digits := fun hc => absurd (hdigits '>' hc) (by decide)
    simpa using hmem
  have hencodings : '>' ∉ encoding := by
    rcases hencoding with rfl | ⟨quote, value, ⟨c, cs, rfl, hc, hcs⟩, hsets⟩
    · exact List.not_mem_nil
    · refine hsets.not_mem (by decide) ?_
      rw [List.mem_cons, not_or]
      refine ⟨?_, fun hmem => absurd (hcs '>' hmem) (by decide)⟩
      rintro rfl
      cases hc
  have hstandalones : '>' ∉ standalone := by
    rcases hstandalone with rfl | ⟨quote, value, rfl | rfl, hsets⟩
    · exact List.not_mem_nil
    · exact hsets.not_mem (by decide) (by decide)
    · exact hsets.not_mem (by decide) (by decide)
  have hbody : '>' ∉ version ++ (encoding ++ (standalone ++ blank)) := by
    have hblanks : '>' ∉ blank := not_mem_of_isBlank hblank rfl
    simp [hversions, hencodings, hstandalones, hblanks]
  have hinfix : ¬ "?>".toList <:+: version ++ (encoding ++ (standalone ++ blank)) :=
    fun hend => hbody (hend.subset (by decide))
  have hread := isRead_question "xml".toList _ (by decide) ⟨'l', ['x', 'm'], rfl, by decide⟩ hinfix
  simpa using hread

/-! Elements -/

/-- Whether a text is read as one element, whatever stands behind it. -/
def ReadsTree (cs : List Char) : Prop :=
  ∀ rest opened, ∃ events, IsTree events ∧
    Source.Reads ⟨cs ++ rest, opened⟩ events ⟨rest, opened⟩

/-- Whether a text behind other text is read up to the next mark as what stands in an element. -/
def ReadsContent (cs : List Char) : Prop :=
  ∀ pending rest opened, '<' ∉ pending → ∃ events, Nests events ∧
    Source.Reads ⟨pending ++ (cs ++ '<' :: rest), opened⟩ events ⟨'<' :: rest, opened⟩

/-- Whether a text goes on with the text before it, or is read for itself in an element. -/
def ReadsItem (cs : List Char) : Prop :=
  '<' ∉ cs ∨ (∃ more, cs = '<' :: more) ∧ ∀ rest opened, ∃ events,
    (∀ later, Nests later → Nests (events ++ later)) ∧
      Source.Reads ⟨cs ++ rest, opened⟩ events ⟨rest, opened⟩

theorem readsItem_of_isRead (h : IsRead (!·.isTag) cs) : ReadsItem cs := by
  refine Or.inr ⟨h.1, fun rest opened => ?_⟩
  obtain ⟨event, htag, hnext⟩ := h.2 rest opened
  refine ⟨[event], fun later hlater => ?_, .single hnext⟩
  exact .plain (by simpa using htag) hlater

theorem isRead_of_isOuter (h : IsRead Event.isOuter cs) : IsRead (!·.isTag) cs := by
  refine ⟨h.1, fun rest opened => ?_⟩
  obtain ⟨event, houter, hnext⟩ := h.2 rest opened
  refine ⟨event, ?_, hnext⟩
  cases event with
  | start => cases houter
  | finish => cases houter
  | empty => cases houter
  | _ => rfl

theorem Alphabet.IsCharData.not_mem (h : a.IsCharData cs) : '<' ∉ cs :=
  fun hc => (h.1 '<' hc).2 List.mem_cons_self

theorem readsContent_data (h : a.IsCharData cs) : ReadsContent cs := by
  intro pending rest opened hpending
  have htext : '<' ∉ pending ++ cs := by simp [hpending, h.not_mem]
  have hreads := reads_textEvents htext (.inr ⟨rest, rfl⟩) opened
  refine ⟨textEvents (pending ++ cs), by simpa using nests_textEvents .nil, ?_⟩
  simpa using hreads

theorem readsContent_item {data item : List Char} (hdata : a.IsCharData data)
    (hitem : ReadsItem item) (h : ReadsContent cs) : ReadsContent (data ++ (item ++ cs)) := by
  intro pending rest opened hpending
  have htext : '<' ∉ pending ++ data := by simp [hpending, hdata.not_mem]
  rcases hitem with hplain | ⟨⟨more, rfl⟩, hitem⟩
  -- A reference is no event of its own: it goes on with the text before it.
  · have hall : '<' ∉ pending ++ data ++ item := by simp [hpending, hdata.not_mem, hplain]
    simpa using h _ rest opened hall
  · obtain ⟨first, hfirst, hreads⟩ := hitem (cs ++ '<' :: rest) opened
    obtain ⟨events, hevents, hmore⟩ := h [] rest opened List.not_mem_nil
    have hpassed := reads_textEvents htext (.inr ⟨more ++ (cs ++ '<' :: rest), rfl⟩) opened
    refine ⟨textEvents (pending ++ data) ++ (first ++ events),
      nests_textEvents (hfirst _ hevents), ?_⟩
    simpa using hpassed.append (hreads.append hmore)

theorem readsTree_empty (ha : a.IsApart) (hname : a.IsName name)
    (hattributes : a.IsAttributes names tail) :
    ReadsTree ('<' :: (name ++ (tail ++ ['/', '>']))) := by
  intro rest opened
  have hnext := next_empty (hname.isTagName ha) (hattributes.isTagTail ha) rest opened
  exact ⟨[.empty name], .empty name, .single (by simpa using hnext)⟩

theorem readsTree_closed (ha : a.IsApart) (hname : a.IsName name)
    (hattributes : a.IsAttributes names tail) (hinner : ReadsContent body)
    (hblank : IsBlank blank) :
    ReadsTree ('<' :: (name ++ (tail ++ '>' ::
      (body ++ '<' :: '/' :: (name ++ (blank ++ ['>'])))))) := by
  intro rest opened
  have htag := hname.isTagName ha
  obtain ⟨events, hevents, hreads⟩ := hinner [] ('/' :: (name ++ (blank ++ '>' :: rest)))
    (name :: opened) List.not_mem_nil
  have hstart := next_start htag (hattributes.isTagTail ha)
    (body ++ '<' :: '/' :: (name ++ (blank ++ '>' :: rest))) opened
  have hfinish := next_finish htag hblank rest opened
  rw [List.append_assoc] at hstart hfinish
  refine ⟨.start name :: (events ++ [.finish name]), .closed name hevents, ?_⟩
  simpa using Source.Reads.cons hstart (hreads.append (.single hfinish))

theorem Alphabet.IsElement.exists_cons (h : a.IsElement cs) : ∃ more, cs = '<' :: more := by
  cases h with
  | empty => exact ⟨_, rfl⟩
  | closed => exact ⟨_, rfl⟩

theorem readsItem_of_isElement (h : a.IsElement cs) (hreads : ReadsTree cs) : ReadsItem cs := by
  refine Or.inr ⟨h.exists_cons, fun rest opened => ?_⟩
  obtain ⟨events, htree, hevents⟩ := hreads rest opened
  exact ⟨events, fun later hlater => htree.nests_append hlater, hevents⟩

mutual

theorem Alphabet.IsElement.readsTree (ha : a.IsApart) {cs : List Char} (h : a.IsElement cs) :
    ReadsTree cs :=
  match cs, h with
  | _, .empty hname hattributes _ => readsTree_empty ha hname hattributes
  | _, .closed hname hattributes _ hinner hblank =>
    readsTree_closed ha hname hattributes (hinner.readsContent ha) hblank

theorem Alphabet.IsItem.readsItem (ha : a.IsApart) {cs : List Char} (h : a.IsItem cs) :
    ReadsItem cs :=
  match cs, h with
  | _, .element h => readsItem_of_isElement h (h.readsTree ha)
  | _, .reference h => Or.inl (h.not_mem (by decide))
  | _, .dataSection h => readsItem_of_isRead (isRead_of_isDataSection h)
  | _, .instruction h => readsItem_of_isRead (isRead_of_isOuter (isRead_of_isInstruction ha h))
  | _, .comment h => readsItem_of_isRead (isRead_of_isOuter (isRead_of_isComment h))

theorem Alphabet.IsContent.readsContent (ha : a.IsApart) {cs : List Char} (h : a.IsContent cs) :
    ReadsContent cs :=
  match cs, h with
  | _, .data hdata => readsContent_data hdata
  | _, .item hdata hitem hcs =>
    readsContent_item hdata (hitem.readsItem ha) (hcs.readsContent ha)

end

/-! Documents -/

theorem isOuterSpace_of_isSpace (h : isSpace c = true) : isOuterSpace c = true := by
  simp [isOuterSpace, h]

theorem hasRoots_textEvents {k : Nat} (h : IsBlank cs) (hevents : HasRoots k events) :
    HasRoots k (textEvents cs ++ events) := by
  unfold textEvents
  split
  · exact hevents
  · refine .outer ?_ hevents
    exact List.all_eq_true.mpr fun c hc => isOuterSpace_of_isSpace (h c hc)

theorem exists_reads_of_isRead {later : List Event} {u : Source} {k : Nat}
    (h : IsRead Event.isOuter cs) (hblank : IsBlank blank) (hroots : HasRoots k later)
    (hreads : Source.Reads ⟨rest, []⟩ later u) :
    ∃ events, HasRoots k events ∧ Source.Reads ⟨blank ++ (cs ++ rest), []⟩ events u := by
  obtain ⟨⟨more, rfl⟩, hread⟩ := h
  obtain ⟨event, houter, hnext⟩ := hread rest []
  have htext : '<' ∉ blank := not_mem_of_isBlank hblank rfl
  have hpassed := reads_textEvents htext (.inr ⟨more ++ rest, rfl⟩) []
  refine ⟨textEvents blank ++ event :: later, hasRoots_textEvents hblank (.outer houter hroots), ?_⟩
  exact hpassed.append (.cons hnext hreads)

theorem exists_reads_of_isMisc {later : List Event} {u : Source} {k : Nat} (ha : a.IsApart)
    (h : a.IsMisc cs) (hrest : rest = [] ∨ ∃ more, rest = '<' :: more) (hroots : HasRoots k later)
    (hreads : Source.Reads ⟨rest, []⟩ later u) (hblank : IsBlank blank) :
    ∃ events, HasRoots k events ∧ Source.Reads ⟨blank ++ (cs ++ rest), []⟩ events u := by
  induction h generalizing blank with
  | nil =>
    have hpassed := reads_textEvents (not_mem_of_isBlank hblank rfl) hrest []
    exact ⟨_, hasRoots_textEvents hblank hroots, hpassed.append hreads⟩
  | @blank c cs hc _ ih =>
    have hmore : IsBlank (blank ++ [c]) := by
      intro d hd
      rcases List.mem_append.mp hd with hd | hd
      · exact hblank d hd
      · rw [List.mem_singleton] at hd
        exact hd ▸ hc
    simpa using ih hmore
  | @comment first cs hfirst _ ih =>
    obtain ⟨events, hevents, hothers⟩ := ih (List.forall_mem_nil _)
    rw [List.append_assoc]
    exact exists_reads_of_isRead (isRead_of_isComment hfirst) hblank hevents hothers
  | @instruction first cs hfirst _ ih =>
    obtain ⟨events, hevents, hothers⟩ := ih (List.forall_mem_nil _)
    rw [List.append_assoc]
    exact exists_reads_of_isRead (isRead_of_isInstruction ha hfirst) hblank hevents hothers

/-- No byte order mark stands in front of a root but the one that is left out. -/
theorem ofText_of_isMisc (h : a.IsMisc cs) (hrest : ∃ more, rest = '<' :: more) :
    Source.ofText (cs ++ rest) = ⟨cs ++ rest, []⟩ := by
  have hhead : (cs ++ rest).head? ≠ some '\ufeff' := by
    cases h with
    | nil =>
      obtain ⟨more, rfl⟩ := hrest
      simp
    | blank hc =>
      intro hmark
      cases hmark
      cases hc
    | comment hfirst =>
      obtain ⟨body, rfl, -⟩ := hfirst
      simp
    | instruction hfirst =>
      obtain ⟨target, body, rfl, -⟩ := hfirst
      simp
  unfold Source.ofText
  split
  · rename_i others hcs
    rw [hcs] at hhead
    exact absurd rfl hhead
  · rfl

/-- The check accepts every document. -/
theorem checkDocument_of_isDocument {text : String} (ha : a.IsApart)
    (h : a.IsDocument text.toList) : checkDocument text = .ok () := by
  generalize htext : text.toList = cs at h
  obtain @⟨mark, declaration, before, root, behind, hmark, hdeclaration, hbefore, hroot,
    hbehind⟩ := h
  have hempty : IsBlank [] := List.forall_mem_nil _
  -- From the end of the text to its beginning, each part is read up to the one behind it.
  obtain ⟨ending, hending, hlast⟩ :=
    exists_reads_of_isMisc ha hbehind (.inl rfl) .nil (.nil _) hempty
  obtain ⟨tree, htree, hreads⟩ := hroot.readsTree ha behind []
  rw [List.nil_append, List.append_nil] at hlast
  obtain ⟨more, hmore⟩ := hroot.exists_cons
  have hcons : ∃ later, root ++ behind = '<' :: later := ⟨more ++ behind, by rw [hmore]; rfl⟩
  obtain ⟨middle, hmiddle, hothers⟩ := exists_reads_of_isMisc ha hbefore (.inr hcons)
    (.root htree hending) (hreads.append hlast) hempty
  rw [List.nil_append] at hothers
  obtain ⟨events, hevents, hall⟩ : ∃ events, HasRoots 1 events ∧
      Source.Reads ⟨declaration ++ (before ++ (root ++ behind)), []⟩ events ⟨[], []⟩ := by
    rcases hdeclaration with rfl | hdeclaration
    · exact ⟨middle, hmiddle, hothers⟩
    · have hread := isRead_of_isDeclaration hdeclaration
      simpa using exists_reads_of_isRead hread hempty hmiddle hothers
  have hsource : Source.ofText text.toList = ⟨declaration ++ (before ++ (root ++ behind)), []⟩ := by
    rw [htext]
    rcases hmark with rfl | rfl
    · rcases hdeclaration with rfl | hdeclaration
      · simpa using ofText_of_isMisc hbefore hcons
      · obtain ⟨⟨later, rfl⟩, -⟩ := isRead_of_isDeclaration hdeclaration
        rfl
    · rfl
  exact checkDocument_eq_ok_iff.mpr ⟨events, _, hsource ▸ hall, rfl, hevents⟩

end WebService.Markup
