import WebService.Proofs.Markup.Spelled
import WebService.Proofs.Text.Split

/-!
Reading element trees back from their texts. What comes back is the tree in its normal form, so no
text and no value is taken for markup, and two trees with one text have the same normal form.
-/
namespace WebService.Markup

variable {void : String → Bool} {name : String} {attributes : List (String × String)}
  {children nodes : List Node} {cs inner rest text : List Char} {e : Element} {fuel size : Nat}

/-! Normal forms -/

def textNodes (s : String) : List Node := if s = "" then [] else [.text s]

mutual

/-- The tree in which texts side by side are one and empty texts are left out, at every level. -/
def Element.normal : Element → Element
  | .mk name attributes children => .mk name attributes (normalNodes "" children)

/-- The children in normal form, behind a text that is not yet at its end. -/
def normalNodes (pending : String) : List Node → List Node
  | [] => textNodes pending
  | .text s :: nodes => normalNodes (pending ++ s) nodes
  | .element e :: nodes => textNodes pending ++ .element e.normal :: normalNodes "" nodes

end

/-! References -/

/-- Each of the five references replaced by its character. -/
def unescape : List Char → List Char
  | '&' :: 'l' :: 't' :: ';' :: cs => '<' :: unescape cs
  | '&' :: 'g' :: 't' :: ';' :: cs => '>' :: unescape cs
  | '&' :: 'a' :: 'm' :: 'p' :: ';' :: cs => '&' :: unescape cs
  | '&' :: 'a' :: 'p' :: 'o' :: 's' :: ';' :: cs => '\'' :: unescape cs
  | '&' :: 'q' :: 'u' :: 'o' :: 't' :: ';' :: cs => '"' :: unescape cs
  | c :: cs => c :: unescape cs
  | [] => []

theorem unescape_cons {c : Char} (h : c ≠ '&') : unescape (c :: cs) = c :: unescape cs := by
  rw [unescape]
  all_goals
    intros
    simp_all

theorem unescape_escapeChar (c : Char) (cs : List Char) :
    unescape (escapeChar c ++ cs) = c :: unescape cs := by
  by_cases hc : c ∈ escapedMarks
  · simp only [escapedMarks, List.mem_cons, List.not_mem_nil, or_false] at hc
    rcases hc with rfl | rfl | rfl | rfl | rfl
    all_goals rfl
  · rw [escapeChar_of_not_mem hc]
    exact unescape_cons fun he => hc (by simp [he, escapedMarks])

theorem unescape_escape (s : String) : unescape (escape s) = s.toList := by
  have hchars : ∀ cs : List Char, unescape (cs.flatMap escapeChar) = cs := by
    intro cs
    induction cs with
    | nil => rfl
    | cons c cs ih => rw [List.flatMap_cons, unescape_escapeChar, ih]
  exact hchars s.toList

theorem escape_append (s t : String) : escape (s ++ t) = escape s ++ escape t := by
  simp [escape]

/-! Reading -/

/-- The attributes in front of a text, and what stands behind them. -/
def readAttributes : Nat → List Char → Option (List (String × String) × List Char)
  | fuel + 1, ' ' :: cs =>
    match cs.dropWhile isNameChar with
    | '=' :: '"' :: quoted => do
      let (others, rest) ← readAttributes fuel ((quoted.dropWhile (· ≠ '"')).drop 1)
      let name := String.ofList (cs.takeWhile isNameChar)
      let value := String.ofList (unescape (quoted.takeWhile (· ≠ '"')))
      return ((name, value) :: others, rest)
    | _ => none
  | _, cs => some ([], cs)

/-- The rest of an element behind its name and attributes; `read` is how its children are read. -/
def readContent (unclosed : Bool) (name : String) (attributes : List (String × String))
    (read : List Char → Option (List Node × List Char)) : List Char → Option (Element × List Char)
  | '/' :: '>' :: rest => some (.mk name attributes [], rest)
  | '>' :: inner =>
    if unclosed then some (.mk name attributes [], inner)
    else do
      let (children, behind) ← read inner
      let rest ← Text.after? (writeEnd name) behind
      return (.mk name attributes children, rest)
  | _ => none

mutual

/-- The element whose tag stands in front of a text, and what stands behind it. Elements with a
`void` name have neither content nor end tag. -/
def readElement (void : String → Bool) : Nat → List Char → Option (Element × List Char)
  | fuel + 1, '<' :: tag => do
    let name := String.ofList (tag.takeWhile isNameChar)
    let (attributes, behind) ← readAttributes fuel (tag.dropWhile isNameChar)
    readContent (void name) name attributes (readNodes void fuel) behind
  | _, _ => none

/-- The elements and runs of text up to an end tag, and the text from there. -/
def readNodes (void : String → Bool) : Nat → List Char → Option (List Node × List Char)
  | 0, _ => none
  | fuel + 1, cs =>
    match cs with
    | '<' :: '/' :: _ => some ([], cs)
    | '<' :: _ => do
      let (e, behind) ← readElement void fuel cs
      let (nodes, rest) ← readNodes void fuel behind
      return (.element e :: nodes, rest)
    | _ => do
      let (nodes, rest) ← readNodes void fuel (cs.dropWhile (· ≠ '<'))
      return (.text (String.ofList (unescape (cs.takeWhile (· ≠ '<')))) :: nodes, rest)

end

/-- The tree that a text is, if it is one. Each step of reading takes text away, so the length of
the text is enough fuel. -/
def readTree? (void : String → Bool) (text : String) : Option Element :=
  match readElement void (text.length + 1) text.toList with
  | some (e, []) => some e
  | _ => none

/-! Reading tags -/

/-- A run of characters of one sort ends at the first character of another. -/
theorem span_of_forall {p : Char → Bool} (h : ∀ c ∈ cs, p c = true) {mark : Char}
    (hmark : p mark = false) (rest : List Char) :
    (cs ++ mark :: rest).takeWhile p = cs ∧ (cs ++ mark :: rest).dropWhile p = mark :: rest := by
  rw [List.takeWhile_append_of_pos h, List.dropWhile_append_of_pos h]
  simp [hmark]

theorem readAttributes_of_ne {mark : Char} (h : mark ≠ ' ') :
    readAttributes fuel (mark :: rest) = some ([], mark :: rest) := by
  unfold readAttributes
  split
  · rename_i heq
    exact absurd (List.cons.inj heq).1 h
  · rfl

theorem readAttributes_writeAttributes {mark : Char} (rest : List Char)
    (h : ∀ a ∈ attributes, isName a.1 = true) (hmark : mark ≠ ' ')
    (hfuel : attributes.length ≤ fuel) :
    readAttributes fuel (writeAttributes attributes ++ mark :: rest) =
      some (attributes, mark :: rest) := by
  induction attributes generalizing fuel with
  | nil => exact readAttributes_of_ne hmark
  | cons first others ih =>
    obtain ⟨name, value⟩ := first
    obtain ⟨left, rfl⟩ : ∃ left, fuel = left + 1 := ⟨fuel - 1, by simp at hfuel; omega⟩
    have hname : isName name = true := h (name, value) List.mem_cons_self
    have hothers := ih (fun a ha => h a (List.mem_cons_of_mem _ ha)) (Nat.le_of_succ_le_succ hfuel)
    have hvalue : ∀ c ∈ escape value, decide (c ≠ '"') = true := fun c hc =>
      decide_eq_true fun he => not_mem_escape (Or.inr rfl) value (he ▸ hc)
    have hequals : isNameChar '=' = false := by decide
    obtain ⟨hnameTaken, hnameLeft⟩ := span_of_forall (fun c hc => isNameChar_of_mem hname hc)
      hequals ('"' :: (escape value ++ '"' :: (writeAttributes others ++ mark :: rest)))
    have hquote : decide ('"' ≠ '"') = false := by decide
    obtain ⟨hvalueTaken, hvalueLeft⟩ := span_of_forall hvalue hquote
      (writeAttributes others ++ mark :: rest)
    have htext : writeAttributes ((name, value) :: others) ++ mark :: rest =
        ' ' :: (name.toList ++ '=' :: '"' :: (escape value ++ '"' ::
          (writeAttributes others ++ mark :: rest))) := by
      simp [writeAttributes]
    rw [htext, readAttributes, hnameLeft]
    simp only [hnameTaken, hvalueTaken, hvalueLeft, List.drop_one, List.tail_cons, hothers,
      unescape_escape, String.ofList_toList]
    rfl

/-! Reading trees -/

theorem readNodes_run {mark : Char} (h : mark ≠ '<')
    (hnodes : readNodes void fuel ((mark :: cs).dropWhile (· ≠ '<')) = some (nodes, rest)) :
    readNodes void (fuel + 1) (mark :: cs) =
      some (.text (String.ofList (unescape ((mark :: cs).takeWhile (· ≠ '<')))) :: nodes,
        rest) := by
  rw [readNodes, hnodes]
  · rfl
  · exact fun _ heq => h (List.cons.inj heq).1
  · exact fun _ heq => h (List.cons.inj heq).1

theorem readNodes_element {mark : Char} (h : mark ≠ '/')
    (hread : readElement void fuel ('<' :: mark :: cs) = some (e, inner))
    (hnodes : readNodes void fuel inner = some (nodes, rest)) :
    readNodes void (fuel + 1) ('<' :: mark :: cs) = some (.element e :: nodes, rest) := by
  rw [readNodes, hread]
  · simp [hnodes]
  · exact fun _ heq => h (List.cons.inj heq).1

/-- A text is read as one run, unless there is nothing to it. -/
theorem readNodes_escape {s : String} (h : ∀ fuel, size < fuel →
      readNodes void fuel ('<' :: cs) = some (nodes, rest))
    (hfuel : (escape s).length + size < fuel) :
    readNodes void fuel (escape s ++ '<' :: cs) = some (textNodes s ++ nodes, rest) := by
  by_cases hs : s = ""
  · subst hs
    exact h fuel (by omega)
  · obtain ⟨left, rfl⟩ : ∃ left, fuel = left + 1 := ⟨fuel - 1, by omega⟩
    have hrun : ∀ c ∈ escape s, decide (c ≠ '<') = true := fun c hc =>
      decide_eq_true fun he => not_mem_escape (Or.inl rfl) s (he ▸ hc)
    have hopen : decide ('<' ≠ '<') = false := by decide
    obtain ⟨htaken, hleft⟩ := span_of_forall hrun hopen cs
    have hunescaped := unescape_escape s
    cases hescape : escape s with
    | nil =>
      rw [hescape] at hunescaped
      exact absurd (String.toList_eq_nil_iff.mp hunescaped.symm) hs
    | cons mark others =>
      rw [hescape] at htaken hleft hfuel hunescaped
      have hmark : mark ≠ '<' := by
        have hmem : mark ∈ escape s := hescape ▸ List.mem_cons_self
        simpa using hrun mark hmem
      have hrest := h left (by simp at hfuel; omega)
      rw [List.cons_append] at htaken hleft ⊢
      rw [readNodes_run hmark (hleft ▸ hrest), htaken, hunescaped]
      simp [textNodes, hs]

/-- A written element begins with a tag that is no end tag. -/
theorem Element.Spelled.exists_cons (h : e.Spelled void text) :
    ∃ mark cs, text = '<' :: mark :: cs ∧ mark ≠ '/' := by
  have hopening : ∀ {name : String} {attributes : List (String × String)} {rest : List Char},
      HasNames name attributes → ∃ mark cs,
        writeOpening name attributes ++ rest = '<' :: mark :: cs ∧ mark ≠ '/' := by
    intro name attributes rest hnames
    obtain ⟨first, others, hfirst, hstart⟩ := isName_cons hnames.1
    refine ⟨first, others ++ (writeAttributes attributes ++ rest), ?_, ?_⟩
    · simp [writeOpening, hfirst]
    · rintro rfl
      revert hstart
      decide
  cases h with
  | hollow hnames => exact hopening hnames
  | unclosed hnames => exact hopening hnames
  | closed hnames => exact hopening hnames

theorem length_le_writeAttributes (attributes : List (String × String)) :
    attributes.length ≤ (writeAttributes attributes).length := by
  induction attributes with
  | nil => exact Nat.le_refl 0
  | cons first others ih =>
    simp only [writeAttributes, List.flatMap_cons, List.length_append, List.length_cons] at ih ⊢
    omega

/-- The name in a written tag ends where its attributes or the end of the tag begin. -/
theorem span_writeAttributes {mark : Char} (hname : isName name = true)
    (hmark : isNameChar mark = false) (attributes : List (String × String)) (rest : List Char) :
    (name.toList ++ (writeAttributes attributes ++ mark :: rest)).takeWhile isNameChar =
        name.toList ∧
      (name.toList ++ (writeAttributes attributes ++ mark :: rest)).dropWhile isNameChar =
        writeAttributes attributes ++ mark :: rest := by
  obtain ⟨next, others, hnext, hend⟩ : ∃ next others,
      writeAttributes attributes ++ mark :: rest = next :: others ∧ isNameChar next = false := by
    cases attributes with
    | nil => exact ⟨mark, rest, rfl, hmark⟩
    | cons first others => exact ⟨' ', _, rfl, by decide⟩
  rw [hnext]
  exact span_of_forall (fun c hc => isNameChar_of_mem hname hc) hend others

/-- A written tag is read up to its end. -/
theorem readElement_opening {mark : Char} (hnames : HasNames name attributes)
    (hmark : isNameChar mark = false) (hblank : mark ≠ ' ') (hfuel : attributes.length ≤ fuel) :
    readElement void (fuel + 1) (writeOpening name attributes ++ mark :: rest) =
      readContent (void name) name attributes (readNodes void fuel) (mark :: rest) := by
  have hread := readAttributes_writeAttributes rest hnames.2 hblank hfuel
  obtain ⟨htaken, hleft⟩ := span_writeAttributes hnames.1 hmark attributes rest
  have htext : writeOpening name attributes ++ mark :: rest =
      '<' :: (name.toList ++ (writeAttributes attributes ++ mark :: rest)) := by
    simp [writeOpening]
  simp only [htext, readElement, htaken, hleft, hread, String.ofList_toList]
  rfl

theorem length_writeOpening (name : String) (attributes : List (String × String)) :
    attributes.length < (writeOpening name attributes).length := by
  have hattributes := length_le_writeAttributes attributes
  simp only [writeOpening, List.length_cons, List.length_append]
  omega

mutual

/-- A written element is read as its normal form, whatever stands behind it. -/
theorem Element.read_of_spelled (e : Element) {text : List Char} (h : e.Spelled void text)
    (fuel : Nat) (hfuel : text.length ≤ fuel) (rest : List Char) :
    readElement void fuel (text ++ rest) = some (e.normal, rest) := by
  obtain ⟨name, attributes, children⟩ := e
  have hopening := length_writeOpening name attributes
  have hlength : (writeOpening name attributes).length < fuel := by
    cases h <;> simp at hfuel <;> omega
  obtain ⟨left, rfl⟩ : ∃ left, fuel = left + 1 := ⟨fuel - 1, by omega⟩
  cases h with
  | hollow hnames =>
    rw [List.append_assoc, List.cons_append,
      readElement_opening hnames (by decide) (by decide) (by omega)]
    rfl
  | unclosed hnames hvoid =>
    rw [List.append_assoc, List.cons_append,
      readElement_opening hnames (by decide) (by decide) (by omega), readContent, if_pos hvoid]
    rfl
  | @closed _ _ _ inner hnames hvoid hinner =>
    have hnodes := readNodes_of_spelled children "" hinner left
      (by simp [escape] at hfuel ⊢; omega) (name.toList ++ '>' :: rest)
    have hend : writeEnd name ++ rest = '<' :: '/' :: (name.toList ++ '>' :: rest) := by
      simp [writeEnd]
    have hrest : Text.after? (writeEnd name) (writeEnd name ++ rest) = some rest :=
      Text.after?_eq_some_iff.mpr rfl
    rw [hend] at hrest
    rw [List.append_assoc, List.cons_append, List.append_assoc,
      readElement_opening hnames (by decide) (by decide) (by omega), readContent, hvoid, hend]
    change readNodes void left (inner ++ '<' :: '/' :: (name.toList ++ '>' :: rest)) = _ at hnodes
    simp [hnodes, hrest, Element.normal]

theorem readNodes_of_spelled (nodes : List Node) (pending : String) {text : List Char}
    (h : NodesSpelled void nodes text) (fuel : Nat)
    (hfuel : (escape pending).length + text.length < fuel) (rest : List Char) :
    readNodes void fuel (escape pending ++ (text ++ '<' :: '/' :: rest)) =
      some (normalNodes pending nodes, '<' :: '/' :: rest) := by
  match nodes with
  | [] =>
    cases h
    have hend : ∀ fuel, 0 < fuel → readNodes void fuel ('<' :: '/' :: rest) =
        some ([], '<' :: '/' :: rest) := by
      intro fuel hfuel
      obtain ⟨left, rfl⟩ : ∃ left, fuel = left + 1 := ⟨fuel - 1, by omega⟩
      rfl
    simpa [normalNodes] using readNodes_escape hend hfuel
  | .text shown :: nodes =>
    cases h with
    | text hothers =>
      have hread := readNodes_of_spelled nodes (pending ++ shown) hothers fuel
        (by simp [escape_append] at hfuel ⊢; omega) rest
      simpa [normalNodes, escape_append] using hread
  | .element e :: nodes =>
    cases h with
    | @element _ _ first others hfirst hothers =>
      obtain ⟨mark, cs, hcons, hmark⟩ := hfirst.exists_cons
      have hboth : ∀ fuel, first.length + others.length < fuel →
          readNodes void fuel ('<' :: (mark :: cs ++ (others ++ '<' :: '/' :: rest))) =
            some (.element e.normal :: normalNodes "" nodes, '<' :: '/' :: rest) := by
        intro fuel hfuel
        obtain ⟨left, rfl⟩ : ∃ left, fuel = left + 1 := ⟨fuel - 1, by omega⟩
        have hlength : first.length = cs.length + 2 := by simp [hcons]
        have helement := e.read_of_spelled hfirst left (by omega)
          (others ++ '<' :: '/' :: rest)
        have hnodes := readNodes_of_spelled nodes "" hothers left
          (by simp [escape]; omega) rest
        rw [hcons] at helement
        exact readNodes_element hmark helement hnodes
      have hall := readNodes_escape hboth (s := pending) (by simp at hfuel; omega)
      simpa [hcons, normalNodes] using hall

end

/-! No loss -/

theorem readTree?_of_spelled {written : List Char} (h : e.Spelled void written) :
    readTree? void (String.ofList written) = some e.normal := by
  have hread := e.read_of_spelled h (written.length + 1) (by omega) []
  rw [List.append_nil] at hread
  simp [readTree?, hread]

theorem exists_spelled_of_toXml {text : String} (h : e.toXml = .ok text) :
    ∃ written, text = String.ofList written ∧ e.Spelled (fun _ => false) written := by
  cases hw : e.writeXml with
  | error fault => simp [Element.toXml, hw, Except.map] at h
  | ok written =>
    refine ⟨written, ?_, e.spelled_of_writeXml hw⟩
    simpa [Element.toXml, hw, Except.map, eq_comm] using h

theorem exists_spelled_of_toHtml {text : String} (h : e.toHtml = .ok text) :
    ∃ written, text = String.ofList written ∧ e.Spelled isVoid written := by
  cases hw : e.writeHtml with
  | error fault => simp [Element.toHtml, hw, Except.map] at h
  | ok written =>
    refine ⟨written, ?_, e.spelled_of_writeHtml hw⟩
    simpa [Element.toHtml, hw, Except.map, eq_comm] using h

theorem readTree?_of_toXml {text : String} (h : e.toXml = .ok text) :
    readTree? (fun _ => false) text = some e.normal := by
  obtain ⟨written, rfl, hspelled⟩ := exists_spelled_of_toXml h
  exact readTree?_of_spelled hspelled

theorem readTree?_of_toHtml {text : String} (h : e.toHtml = .ok text) :
    readTree? isVoid text = some e.normal := by
  obtain ⟨written, rfl, hspelled⟩ := exists_spelled_of_toHtml h
  exact readTree?_of_spelled hspelled

/-- What is written for a tree is read as the tree, up to how its texts are divided, whatever stands
in its texts and values. Hence trees that are written alike have the same normal form. -/
theorem Element.written_without_loss (e e' : Element) (text : String) :
    (e.toXml = .ok text → readTree? (fun _ => false) text = some e.normal) ∧
    (e.toHtml = .ok text → readTree? isVoid text = some e.normal) ∧
    (e.toXml = .ok text → e'.toXml = .ok text → e.normal = e'.normal) ∧
    (e.toHtml = .ok text → e'.toHtml = .ok text → e.normal = e'.normal) := by
  refine ⟨readTree?_of_toXml, readTree?_of_toHtml, ?_, ?_⟩
  · intro h h'
    exact Option.some.inj ((readTree?_of_toXml h).symm.trans (readTree?_of_toXml h'))
  · intro h h'
    exact Option.some.inj ((readTree?_of_toHtml h).symm.trans (readTree?_of_toHtml h'))

/-- One tree with its text in three parts and one with it whole; the value and the text hold marks
of tags, and a reference that stands for itself. -/
theorem Element.written_without_loss_of_divided_text :
    let e : Element := .mk "p" [("title", "\"/><x y='")]
      [.text "1 <", .text "", .text "b> &lt;", .element (.mk "BR" [] []), .text ""]
    let e' : Element := .mk "p" [("title", "\"/><x y='")]
      [.text "1 <b> &lt;", .element (.mk "BR" [] [])]
    let xml := "<p title=\"&quot;/&gt;&lt;x y=&apos;\">1 &lt;b&gt; &amp;lt;<BR/></p>"
    let html := "<p title=\"&quot;/&gt;&lt;x y=&apos;\">1 &lt;b&gt; &amp;lt;<BR></p>"
    (e.toXml = .ok xml ∧ e'.toXml = .ok xml ∧ e.toHtml = .ok html ∧ e'.toHtml = .ok html) ∧
      readTree? (fun _ => false) xml = some e.normal ∧ readTree? isVoid html = some e.normal ∧
      e.normal = e'.normal := by
  intro e e' xml html
  have hxml : e.toXml = .ok xml := by rfl
  have hxml' : e'.toXml = .ok xml := by rfl
  have hhtml : e.toHtml = .ok html := by rfl
  have hhtml' : e'.toHtml = .ok html := by rfl
  obtain ⟨hreadXml, -, hnormal, -⟩ := Element.written_without_loss e e' xml
  obtain ⟨-, hreadHtml, -, -⟩ := Element.written_without_loss e e' html
  exact ⟨⟨hxml, hxml', hhtml, hhtml'⟩, hreadXml hxml, hreadHtml hhtml, hnormal hxml hxml'⟩

end WebService.Markup
