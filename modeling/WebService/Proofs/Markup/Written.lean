import WebService.Proofs.Markup.Nesting
import WebService.Proofs.Markup.Tag
import WebService.Response.Build

/-!
Written element trees are read as the events of the tree, in which texts side by side are one. Hence
they are documents.
-/
namespace WebService.Markup

variable {name : String} {attributes : List (String × String)} {children nodes : List Node}
  {text : List Char} {e : Element}

/-! Trees as events -/

/-- A run of text is an event, unless there is nothing to it. -/
def textEvents (text : List Char) : List Event := if text = [] then [] else [.text text]

mutual

/-- The events of a tree as it is written. -/
def Element.events : Element → List Event
  | .mk name _ [] => [.empty name.toList]
  | .mk name _ children => .start name.toList :: (nodeEvents [] children ++ [.finish name.toList])

/-- The events of children behind a text that is not yet at its end. -/
def nodeEvents (pending : List Char) : List Node → List Event
  | [] => textEvents pending
  | .text s :: nodes => nodeEvents (pending ++ escape s) nodes
  | .element e :: nodes => textEvents pending ++ (e.events ++ nodeEvents [] nodes)

end

theorem reads_textEvents {rest : List Char} (h : '<' ∉ text)
    (hrest : rest = [] ∨ ∃ cs, rest = '<' :: cs) (opened : List (List Char)) :
    Source.Reads ⟨text ++ rest, opened⟩ (textEvents text) ⟨rest, opened⟩ := by
  unfold textEvents
  split
  · rename_i hnil
    subst hnil
    exact .nil _
  · rename_i hne
    exact .single (next_text h hne hrest opened)

theorem checkName_eq_ok_iff : checkName name = .ok () ↔ isName name = true := by
  simp [checkName]

theorem validate_eq_ok_iff : e.validate = .ok () ↔
    isName e.name = true ∧ ∀ a ∈ e.attributes, isName a.1 = true := by
  simp only [Element.validate, check_bind_eq_ok_iff, forM_eq_ok_iff, checkName_eq_ok_iff]

/-- What is written for an element, whose names have to be names. -/
theorem writeXml_mk_eq_ok_iff : (Element.mk name attributes children).writeXml = .ok text ↔
    (isName name = true ∧ ∀ a ∈ attributes, isName a.1 = true) ∧
    ∃ inner, writeXmlNodes children = .ok inner ∧
      text = if children = [] then '<' :: (name.toList ++ writeAttributes attributes ++ ['/', '>'])
        else '<' :: (name.toList ++ writeAttributes attributes ++
          '>' :: (inner ++ writeEnd name)) := by
  rw [Element.writeXml, check_bind_eq_ok_iff, validate_eq_ok_iff]
  apply and_congr Iff.rfl
  cases children with
  | nil => simp [writeXmlNodes, pure_eq_ok_iff]
  | cons node nodes => simp only [bind_eq_ok_iff, pure_eq_ok_iff, reduceCtorEq, if_false,
      List.cons_append, List.append_assoc]

theorem writeXmlNodes_text_eq_ok_iff {shown : String} :
    writeXmlNodes (.text shown :: nodes) = .ok text ↔
      ∃ others, writeXmlNodes nodes = .ok others ∧ text = escape shown ++ others := by
  simp only [writeXmlNodes, bind_eq_ok_iff, pure_eq_ok_iff]

theorem writeXmlNodes_element_eq_ok_iff :
    writeXmlNodes (.element e :: nodes) = .ok text ↔
      ∃ first, e.writeXml = .ok first ∧
        ∃ others, writeXmlNodes nodes = .ok others ∧ text = first ++ others := by
  simp only [writeXmlNodes, bind_eq_ok_iff, pure_eq_ok_iff]

theorem exists_cons_of_writeXml (h : e.writeXml = .ok text) : ∃ cs, text = '<' :: cs := by
  obtain ⟨name, attributes, children⟩ := e
  obtain ⟨-, inner, -, rfl⟩ := writeXml_mk_eq_ok_iff.mp h
  split
  · exact ⟨_, rfl⟩
  · exact ⟨_, rfl⟩

/-! Reading what was written -/

mutual

/-- A written element is read as its events, which leave open what was open before. -/
theorem Element.reads_events (e : Element) {text : List Char} (h : e.writeXml = .ok text)
    (rest : List Char) (opened : List (List Char)) :
    Source.Reads ⟨text ++ rest, opened⟩ e.events ⟨rest, opened⟩ := by
  obtain ⟨name, attributes, children⟩ := e
  obtain ⟨⟨hname, hattributes⟩, inner, hinner, rfl⟩ := writeXml_mk_eq_ok_iff.mp h
  have htag := isTagName_of_isName hname
  have htail := isTagTail_writeAttributes hattributes
  cases children with
  | nil =>
    have hnext := next_empty htag htail rest opened
    simpa [Element.events] using Source.Reads.single hnext
  | cons node nodes =>
    have hstart := next_start htag htail (inner ++ (writeEnd name ++ rest)) opened
    have hnodes := reads_nodeEvents (node :: nodes) [] hinner (by simp)
      ('/' :: (name.toList ++ '>' :: rest)) (name.toList :: opened)
    have hfinish := Source.Reads.single (next_finish htag (List.forall_mem_nil _) rest opened)
    simp only [writeEnd, List.cons_append, List.append_assoc, List.nil_append] at hstart hfinish
    simpa [Element.events, writeEnd] using Source.Reads.cons hstart (hnodes.append hfinish)

/-- Written children are read up to the next mark behind them. -/
theorem reads_nodeEvents (nodes : List Node) (pending : List Char) {text : List Char}
    (h : writeXmlNodes nodes = .ok text) (hpending : '<' ∉ pending) (rest : List Char)
    (opened : List (List Char)) :
    Source.Reads ⟨pending ++ (text ++ '<' :: rest), opened⟩ (nodeEvents pending nodes)
      ⟨'<' :: rest, opened⟩ := by
  match nodes with
  | [] =>
    cases h
    exact reads_textEvents hpending (.inr ⟨rest, rfl⟩) opened
  | .text shown :: nodes =>
    obtain ⟨others, hothers, rfl⟩ := writeXmlNodes_text_eq_ok_iff.mp h
    have hmore : '<' ∉ pending ++ escape shown := by
      simp [hpending, not_mem_escape (Or.inl rfl)]
    simpa [nodeEvents] using reads_nodeEvents nodes _ hothers hmore rest opened
  | .element e :: nodes =>
    obtain ⟨first, hfirst, others, hothers, rfl⟩ := writeXmlNodes_element_eq_ok_iff.mp h
    have helement := e.reads_events hfirst (others ++ '<' :: rest) opened
    have hnodes := reads_nodeEvents nodes [] hothers (by simp) rest opened
    obtain ⟨cs, rfl⟩ := exists_cons_of_writeXml hfirst
    have htext := reads_textEvents hpending (.inr ⟨cs ++ (others ++ '<' :: rest), rfl⟩) opened
    simpa [nodeEvents] using htext.append (helement.append hnodes)

end

/-! How the events of a tree nest -/

theorem nests_textEvents {events : List Event} (h : Nests events) :
    Nests (textEvents text ++ events) := by
  unfold textEvents
  split
  · exact h
  · exact .plain rfl h

mutual

theorem Element.isTree_events (e : Element) : IsTree e.events := by
  obtain ⟨name, attributes, children⟩ := e
  cases children with
  | nil => exact .empty name.toList
  | cons node nodes => exact .closed name.toList (nests_nodeEvents (node :: nodes) [])

theorem nests_nodeEvents (nodes : List Node) (pending : List Char) :
    Nests (nodeEvents pending nodes) := by
  match nodes with
  | [] => simpa [nodeEvents] using nests_textEvents .nil
  | .text shown :: nodes => exact nests_nodeEvents nodes (pending ++ escape shown)
  | .element e :: nodes =>
    have hnodes := nests_nodeEvents nodes []
    exact nests_textEvents (e.isTree_events.nests_append hnodes)

end

theorem checkDocument_of_writeXml (h : e.writeXml = .ok text) :
    checkDocument (String.ofList text) = .ok () := by
  obtain ⟨cs, rfl⟩ := exists_cons_of_writeXml h
  have hreads := e.reads_events h [] []
  have hroots := HasRoots.root e.isTree_events .nil
  rw [List.append_nil] at hreads hroots
  have hsource : Source.ofText (String.ofList ('<' :: cs)).toList = ⟨'<' :: cs, []⟩ := by
    rw [String.toList_ofList]
    rfl
  exact checkDocument_eq_ok_iff.mpr ⟨e.events, _, hsource ▸ hreads, rfl, hroots⟩

/-- The text written for a tree is a document, so that it is sent as it is, and the tree and its
text make the same response. -/
theorem Element.documentText_toXml (e : Element) (text : String) (h : e.toXml = .ok text) :
    documentText text = .ok text ∧
      ∃ r, Response.xmlElement e = .ok r ∧ Response.xmlSource text = .ok r := by
  cases hw : e.writeXml with
  | error fault => simp [Element.toXml, hw, Except.map] at h
  | ok written =>
    have htext : text = String.ofList written := by
      simpa [Element.toXml, hw, Except.map, eq_comm] using h
    have hdocument : documentText text = .ok text := by
      rw [documentText, htext, checkDocument_of_writeXml hw]
      rfl
    refine ⟨hdocument, .ofText .xml 200 "application/xml" text, ?_, ?_⟩
    · rw [Response.xmlElement, h]
      rfl
    · rw [Response.xmlSource, hdocument]
      rfl

/-- Mixed content, an empty text, letters of another script, and marks of tags within a value. -/
theorem Element.documentText_toXml_of_mixed :
    let e : Element := .mk "größe" [("a:b", "\"/>' <x")]
      [.text "", .text "1 < 2", .element (.mk "_" [] []), .text " ]]>",
        .element (.mk "p" [] [.text ""])]
    let text := "<größe a:b=\"&quot;/&gt;&apos; &lt;x\">1 &lt; 2<_/> ]]&gt;<p></p></größe>"
    e.toXml = .ok text ∧ documentText text = .ok text ∧
      ∃ r, Response.xmlElement e = .ok r ∧ Response.xmlSource text = .ok r := by
  intro e text
  have h : e.toXml = .ok text := by rfl
  exact ⟨h, Element.documentText_toXml e text h⟩

end WebService.Markup
