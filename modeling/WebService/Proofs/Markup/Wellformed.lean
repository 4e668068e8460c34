import WebService.Proofs.Markup.Acceptance
import WebService.Proofs.Markup.Lossless
import WebService.Proofs.Markup.Outline

/-!
What is sent as markup. The text of a tree is a document, as far as its names and characters are
those of documents; a text that is checked has tags that nest under one root, but need not be one.
-/
namespace WebService.Markup

variable {a : Alphabet} {name : String} {attributes : List (String × String)}
  {children nodes : List Node} {cs text : List Char} {e : Element} {c : Char}

/-! Trees as they are made -/

/-- The trees that can be made: attributes are set one by one. -/
inductive Element.IsMade : Element → Prop where
  | named (name : String) : IsMade (.named name)
  | attr {e : Element} (name value : String) (h : IsMade e) : IsMade (e.attr name value)
  | child {e inner : Element} (h : IsMade e) (hinner : IsMade inner) : IsMade (e.child inner)
  | text {e : Element} (s : String) (h : IsMade e) : IsMade (e.text s)

mutual

/-- Whether no element in a tree has an attribute twice. -/
def Element.Distinct : Element → Prop
  | .mk _ attributes children => (attributes.map Prod.fst).Nodup ∧ NodesDistinct children

def NodesDistinct : List Node → Prop
  | [] => True
  | .text _ :: nodes => NodesDistinct nodes
  | .element e :: nodes => e.Distinct ∧ NodesDistinct nodes

end

theorem nodesDistinct_append {others : List Node} (h : NodesDistinct nodes)
    (hothers : NodesDistinct others) : NodesDistinct (nodes ++ others) := by
  induction nodes with
  | nil => exact hothers
  | cons node nodes ih =>
    cases node with
    | text s => exact ih h
    | element e => exact ⟨h.1, ih h.2⟩

theorem map_setAttribute (name value : String) (attributes : List (String × String)) :
    (setAttribute name value attributes).map (·.1) =
      if name ∈ attributes.map (·.1) then attributes.map (·.1)
      else attributes.map (·.1) ++ [name] := by
  induction attributes with
  | nil => rfl
  | cons first others ih =>
    obtain ⟨n, v⟩ := first
    rw [setAttribute]
    split
    · rename_i hname
      rw [List.map_cons, List.map_cons, hname, if_pos List.mem_cons_self]
    · rename_i hname
      have hother : name ∈ n :: others.map (·.1) ↔ name ∈ others.map (·.1) := by
        rw [List.mem_cons, or_iff_right (Ne.symm hname)]
      rw [List.map_cons, List.map_cons, ih, if_congr hother rfl rfl]
      split <;> rfl

theorem nodup_map_setAttribute (value : String) (h : (attributes.map Prod.fst).Nodup) :
    ((setAttribute name value attributes).map Prod.fst).Nodup := by
  rw [map_setAttribute]
  split
  · exact h
  · rename_i hnew
    refine List.nodup_append.mpr ⟨h, List.pairwise_singleton _ _, fun key hkey other hother => ?_⟩
    rw [List.mem_singleton.mp hother]
    rintro rfl
    exact hnew hkey

theorem Element.IsMade.distinct (h : e.IsMade) : e.Distinct := by
  induction h with
  | named name => exact ⟨List.nodup_nil, trivial⟩
  | @attr e name value _ ih =>
    obtain ⟨_, attributes, children⟩ := e
    exact ⟨nodup_map_setAttribute value ih.1, ih.2⟩
  | @child e inner _ _ ih ihinner =>
    obtain ⟨_, attributes, children⟩ := e
    exact ⟨ih.1, nodesDistinct_append ih.2 ⟨ihinner, trivial⟩⟩
  | @text e s _ ih =>
    obtain ⟨_, attributes, children⟩ := e
    exact ⟨ih.1, nodesDistinct_append ih.2 trivial⟩

/-! Trees over an alphabet -/

mutual

/-- Whether the names in a tree are names, and its texts and values have only characters, of an
alphabet. -/
def Element.Within (a : Alphabet) : Element → Prop
  | .mk name attributes children => a.IsName name.toList ∧
      (∀ x ∈ attributes, a.IsName x.1.toList ∧ a.Admits x.2.toList) ∧ NodesWithin a children

def NodesWithin (a : Alphabet) : List Node → Prop
  | [] => True
  | .text s :: nodes => a.Admits s.toList ∧ NodesWithin a nodes
  | .element e :: nodes => e.Within a ∧ NodesWithin a nodes

end

/-- All characters, with the names that trees may have. -/
def Alphabet.all : Alphabet := ⟨fun _ => true, Markup.isNameStart, Markup.isNameChar⟩

theorem isName_all (h : isName name = true) : Alphabet.all.IsName name.toList := by
  unfold isName at h
  split at h
  · cases h
  · rename_i hname
    rw [hname]
    simpa [Alphabet.IsName, Alphabet.all] using h

mutual

/-- All trees that can be written have names. -/
theorem Element.within_all_of_spelled (e : Element) {void : String → Bool} {text : List Char}
    (h : e.Spelled void text) : e.Within .all := by
  have hvalues : ∀ {name attributes}, HasNames name attributes →
      Alphabet.all.IsName name.toList ∧ ∀ x ∈ attributes,
        Alphabet.all.IsName x.1.toList ∧ Alphabet.all.Admits x.2.toList := by
    intro name attributes hnames
    exact ⟨isName_all hnames.1, fun x hx => ⟨isName_all (hnames.2 x hx), fun _ _ => rfl⟩⟩
  cases h with
  | hollow hnames => exact ⟨(hvalues hnames).1, (hvalues hnames).2, trivial⟩
  | unclosed hnames => exact ⟨(hvalues hnames).1, (hvalues hnames).2, trivial⟩
  | closed hnames _ hinner =>
    exact ⟨(hvalues hnames).1, (hvalues hnames).2, nodesWithin_all_of_spelled _ hinner⟩

theorem nodesWithin_all_of_spelled (nodes : List Node) {void : String → Bool} {text : List Char}
    (h : NodesSpelled void nodes text) : NodesWithin .all nodes := by
  cases h with
  | nil => trivial
  | text hothers => exact ⟨fun _ _ => rfl, nodesWithin_all_of_spelled _ hothers⟩
  | element hfirst hothers =>
    exact ⟨Element.within_all_of_spelled _ hfirst, nodesWithin_all_of_spelled _ hothers⟩

end

/-! Written trees as documents -/

/-- The marks that may not stand in text and in values are written as references. -/
theorem mem_escapedMarks (h : c ∈ ['<', '&', '"']) : c ∈ escapedMarks := by
  simp only [List.mem_cons, List.not_mem_nil, or_false] at h
  rcases h with rfl | rfl | rfl
  all_goals decide

theorem isReference_escapeChar (h : c ∈ escapedMarks) : a.IsReference (escapeChar c) := by
  simp only [escapedMarks, List.mem_cons, List.not_mem_nil, or_false] at h
  rcases h with rfl | rfl | rfl | rfl | rfl
  · exact .named (by decide : "lt" ∈ _)
  · exact .named (by decide : "gt" ∈ _)
  · exact .named (by decide : "amp" ∈ _)
  · exact .named (by decide : "apos" ∈ _)
  · exact .named (by decide : "quot" ∈ _)

theorem isValue_escape {s : String} (h : a.Admits s.toList) : a.IsValue '"' (escape s) := by
  have hchars : ∀ cs, a.Admits cs → a.IsValue '"' (cs.flatMap escapeChar) := by
    intro cs hcs
    induction cs with
    | nil => exact .nil
    | cons c cs ih =>
      have hmore := ih fun d hd => hcs d (List.mem_cons_of_mem _ hd)
      rw [List.flatMap_cons]
      by_cases hc : c ∈ escapedMarks
      · exact .reference (isReference_escapeChar hc) hmore
      · rw [escapeChar_of_not_mem hc]
        have hplain : c ∉ ['<', '&', '"'] := fun hmark => hc (mem_escapedMarks hmark)
        exact .char (hcs c List.mem_cons_self) hplain hmore
  exact hchars s.toList h

theorem isAttributes_writeAttributes
    (h : ∀ x ∈ attributes, a.IsName x.1.toList ∧ a.Admits x.2.toList) :
    a.IsAttributes (attributes.map (·.1.toList)) (writeAttributes attributes) := by
  induction attributes with
  | nil => exact .nil (List.forall_mem_nil _)
  | cons first others ih =>
    obtain ⟨name, value⟩ := first
    obtain ⟨hname, hvalue⟩ := h (name, value) List.mem_cons_self
    have hothers := ih fun x hx => h x (List.mem_cons_of_mem _ hx)
    have hsets : Sets name.toList '"' (escape value)
        (' ' :: (name.toList ++ '=' :: '"' :: (escape value ++ ['"']))) :=
      ⟨.inl rfl, [' '], [], [], List.cons_ne_nil _ _, by simp [IsBlank, isSpace],
        by simp [IsBlank], by simp [IsBlank], rfl⟩
    exact .cons hname (isValue_escape hvalue) hsets hothers

theorem nodup_map_toList (h : (attributes.map Prod.fst).Nodup) :
    (attributes.map (·.1.toList)).Nodup := by
  have hnames : attributes.map (·.1.toList) = (attributes.map Prod.fst).map String.toList := by simp
  rw [hnames]
  exact List.Pairwise.map _ (fun _ _ hne heq => hne (String.toList_injective heq)) h

/-- Text that is content behind all characters that need no reference. -/
def Alphabet.Continues (a : Alphabet) (cs : List Char) : Prop :=
  ∀ data, (∀ c ∈ data, a.isChar c = true ∧ c ∉ escapedMarks) → a.IsContent (data ++ cs)

theorem isCharData_of_not_mem {data : List Char}
    (h : ∀ c ∈ data, a.isChar c = true ∧ c ∉ escapedMarks) : a.IsCharData data := by
  refine ⟨fun c hc => ⟨(h c hc).1, fun hmark => ?_⟩, fun hend => ?_⟩
  · exact (h c hc).2 (mem_escapedMarks (List.mem_append_left ['"'] hmark))
  · have hmark : '>' ∈ data := hend.subset (by decide)
    exact (h '>' hmark).2 (by decide)

theorem continues_nil : a.Continues [] := by
  intro data hdata
  simpa using Alphabet.IsContent.data (isCharData_of_not_mem hdata)

theorem continues_item {item : List Char} (hitem : a.IsItem item) (h : a.Continues cs) :
    a.Continues (item ++ cs) := by
  intro data hdata
  have hcs : a.IsContent cs := h [] (List.forall_mem_nil _)
  exact .item (isCharData_of_not_mem hdata) hitem hcs

theorem continues_escape {s : String} (hs : a.Admits s.toList) (h : a.Continues cs) :
    a.Continues (escape s ++ cs) := by
  have hchars : ∀ ds, a.Admits ds → a.Continues (ds.flatMap escapeChar ++ cs) := by
    intro ds hds
    induction ds with
    | nil => exact h
    | cons d ds ih =>
      have hmore := ih fun c hc => hds c (List.mem_cons_of_mem _ hc)
      rw [List.flatMap_cons, List.append_assoc]
      -- A reference ends the characters in front; any other character is one more of them.
      by_cases hd : d ∈ escapedMarks
      · exact continues_item (.reference (isReference_escapeChar hd)) hmore
      · rw [escapeChar_of_not_mem hd]
        intro data hdata
        have hboth : ∀ c ∈ data ++ [d], a.isChar c = true ∧ c ∉ escapedMarks := by
          intro c hc
          rcases List.mem_append.mp hc with hc | hc
          · exact hdata c hc
          · rw [List.mem_singleton] at hc
            subst hc
            exact ⟨hds c List.mem_cons_self, hd⟩
        simpa using hmore (data ++ [d]) hboth
  exact hchars s.toList hs

mutual

theorem Element.isElement_of_spelled (e : Element) {text : List Char} (hdistinct : e.Distinct)
    (hwithin : e.Within a) (h : e.Spelled (fun _ => false) text) : a.IsElement text := by
  cases h with
  | hollow hnames =>
    obtain ⟨hname, hattributes, -⟩ := hwithin
    have helement := Alphabet.IsElement.empty hname (isAttributes_writeAttributes hattributes)
      (nodup_map_toList hdistinct.1)
    simpa [writeOpening] using helement
  | unclosed _ hvoid => cases hvoid
  | closed hnames _ hinner =>
    obtain ⟨hname, hattributes, hchildren⟩ := hwithin
    have hcontent := continues_of_spelled _ hdistinct.2 hchildren hinner [] (List.forall_mem_nil _)
    have helement := Alphabet.IsElement.closed hname (isAttributes_writeAttributes hattributes)
      (nodup_map_toList hdistinct.1) hcontent (List.forall_mem_nil _)
    simpa [writeOpening, writeEnd] using helement

theorem continues_of_spelled (nodes : List Node) {text : List Char}
    (hdistinct : NodesDistinct nodes) (hwithin : NodesWithin a nodes)
    (h : NodesSpelled (fun _ => false) nodes text) : a.Continues text := by
  cases h with
  | nil => exact continues_nil
  | @text shown nodes others hothers =>
    have hmore := continues_of_spelled nodes hdistinct hwithin.2 hothers
    exact continues_escape hwithin.1 hmore
  | @element e nodes first others hfirst hothers =>
    have hitem := e.isElement_of_spelled hdistinct.1 hwithin.1 hfirst
    have hmore := continues_of_spelled nodes hdistinct.2 hwithin.2 hothers
    exact continues_item (.element hitem) hmore

end

theorem isDocument_of_toXml {text : String} (hmade : e.IsMade) (hwithin : e.Within a)
    (h : e.toXml = .ok text) : a.IsDocument text.toList := by
  obtain ⟨written, rfl, hspelled⟩ := exists_spelled_of_toXml h
  rw [String.toList_ofList]
  exact (e.isElement_of_spelled hmade.distinct hwithin hspelled).isDocument

/-! What is sent -/

/-- The text of a tree is a document over all characters, and one of XML 1.0 if the tree keeps to
its alphabet. A text is sent as it stands just if it can be read to its end and its tags nest under
one root; so all documents are. -/
theorem sent_markup_nests (e : Element) (source text : String) :
    (e.IsMade → e.toXml = .ok text → Alphabet.all.IsDocument text.toList ∧
      (e.Within .xml → Alphabet.xml.IsDocument text.toList)) ∧
    (documentText source = .ok text ↔ text = source ∧ ReadsRooted source) ∧
    (Alphabet.xml.IsDocument source.toList → documentText source = .ok source) := by
  refine ⟨fun hmade h => ?_, documentText_eq_ok_iff, fun hdocument => ?_⟩
  · obtain ⟨written, -, hspelled⟩ := exists_spelled_of_toXml h
    have hall := e.within_all_of_spelled hspelled
    exact ⟨isDocument_of_toXml hmade hall h, fun hwithin => isDocument_of_toXml hmade hwithin h⟩
  · have hcheck := checkDocument_of_isDocument Alphabet.isApart_xml hdocument
    rw [documentText, check_bind_eq_ok_iff]
    exact ⟨hcheck, rfl⟩

/-- A tree with attributes and mixed content, and a text with a declaration in front. -/
theorem sent_markup_nests_of_mixed :
    let e := (((Element.named "größe").attr "a:b" "x < y").text "1 & 2").child (.named "_")
    let text := "<größe a:b=\"x &lt; y\">1 &amp; 2<_/></größe>"
    let source := "<?xml version=\"1.0\"?>\n<a><b/>1</a >"
    (e.IsMade ∧ e.Within .xml ∧ e.toXml = .ok text ∧ Alphabet.xml.IsDocument text.toList ∧
      documentText text = .ok text) ∧
      documentText source = .ok source ∧ ReadsRooted source := by
  intro e text source
  have hmade : e.IsMade := .child (.text _ (.attr _ _ (.named _))) (.named _)
  have hwithin : e.Within .xml := by
    refine ⟨by decide, ?_, by decide, ⟨by decide, List.forall_mem_nil _, trivial⟩, trivial⟩
    intro x hx
    rw [List.mem_singleton.mp hx]
    exact ⟨by decide, by decide⟩
  have htext : e.toXml = .ok text := by rfl
  have hsource : documentText "<?xml version=\"1.0\"?>\n<a><b/>1</a >" =
      .ok "<?xml version=\"1.0\"?>\n<a><b/>1</a >" := by rfl
  have hdocument := ((sent_markup_nests e text text).1 hmade htext).2 hwithin
  have haccepted := (sent_markup_nests e text text).2.2 hdocument
  have hrooted := ((sent_markup_nests e source source).2.1.mp hsource).2
  exact ⟨⟨hmade, hwithin, htext, hdocument, haccepted⟩, hsource, hrooted⟩

/-- A name that begins with a digit is sent in a text, and one that begins with an ordinal sign in a
tree. Names of XML 1.0 begin with neither. -/
theorem sent_markup_may_be_no_document :
    documentText "<1/>" = .ok "<1/>" ∧ ¬ Alphabet.xml.IsDocument "<1/>".toList ∧
    (Element.named "ª").IsMade ∧ (Element.named "ª").toXml = .ok "<ª/>" ∧
      ¬ Alphabet.xml.IsDocument "<ª/>".toList := by
  have hdigit : ¬ Alphabet.xml.IsDocument "<1/>".toList := by
    intro h
    exact absurd (h.beginsMarkup '1' ['/', '>'] (by rfl)) (by decide)
  have hordinal : ¬ Alphabet.xml.IsDocument "<ª/>".toList := by
    intro h
    exact absurd (h.beginsMarkup 'ª' ['/', '>'] (by rfl)) (by decide)
  exact ⟨by rfl, hdigit, .named _, by rfl, hordinal⟩

end WebService.Markup
