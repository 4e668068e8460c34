import WebService.Proofs.Markup.Written

/-!
The texts of element trees as XML and as HTML, as one relation. The two differ in the elements
without content: these have a slash in their tag, or names that are never closed.
-/
namespace WebService.Markup

variable {void : String → Bool} {name shown : String} {attributes : List (String × String)}
  {children nodes : List Node} {text inner : List Char} {e : Element}

/-- Whether the names in the tag of an element are names. -/
def HasNames (name : String) (attributes : List (String × String)) : Prop :=
  isName name = true ∧ ∀ a ∈ attributes, isName a.1 = true

def writeOpening (name : String) (attributes : List (String × String)) : List Char :=
  '<' :: (name.toList ++ writeAttributes attributes)

mutual

/-- Whether a text is that of an element, where elements with a `void` name are not closed. -/
inductive Element.Spelled (void : String → Bool) : Element → List Char → Prop where
  | hollow {name : String} {attributes : List (String × String)}
      (hnames : HasNames name attributes) :
      Element.Spelled void (.mk name attributes []) (writeOpening name attributes ++ ['/', '>'])
  | unclosed {name : String} {attributes : List (String × String)}
      (hnames : HasNames name attributes) (hvoid : void name = true) :
      Element.Spelled void (.mk name attributes []) (writeOpening name attributes ++ ['>'])
  | closed {name : String} {attributes : List (String × String)} {children : List Node}
      {inner : List Char} (hnames : HasNames name attributes) (hvoid : void name = false)
      (hinner : NodesSpelled void children inner) :
      Element.Spelled void (.mk name attributes children)
        (writeOpening name attributes ++ '>' :: (inner ++ writeEnd name))

/-- Whether a text is that of nodes side by side. -/
inductive NodesSpelled (void : String → Bool) : List Node → List Char → Prop where
  | nil : NodesSpelled void [] []
  | text {shown : String} {nodes : List Node} {others : List Char}
      (hothers : NodesSpelled void nodes others) :
      NodesSpelled void (.text shown :: nodes) (escape shown ++ others)
  | element {e : Element} {nodes : List Node} {first others : List Char}
      (hfirst : Element.Spelled void e first) (hothers : NodesSpelled void nodes others) :
      NodesSpelled void (.element e :: nodes) (first ++ others)

end

/-! Written as XML -/

mutual

theorem Element.spelled_of_writeXml (e : Element) {text : List Char} (h : e.writeXml = .ok text) :
    e.Spelled (fun _ => false) text := by
  obtain ⟨name, attributes, children⟩ := e
  obtain ⟨hnames, inner, hinner, rfl⟩ := writeXml_mk_eq_ok_iff.mp h
  cases children with
  | nil => simpa [writeOpening] using Element.Spelled.hollow hnames
  | cons node nodes =>
    have hnodes := spelled_of_writeXmlNodes (node :: nodes) hinner
    simpa [writeOpening] using Element.Spelled.closed hnames rfl hnodes

theorem spelled_of_writeXmlNodes (nodes : List Node) {text : List Char}
    (h : writeXmlNodes nodes = .ok text) : NodesSpelled (fun _ => false) nodes text := by
  match nodes with
  | [] =>
    cases h
    exact .nil
  | .text shown :: nodes =>
    obtain ⟨others, hothers, rfl⟩ := writeXmlNodes_text_eq_ok_iff.mp h
    exact .text (spelled_of_writeXmlNodes nodes hothers)
  | .element e :: nodes =>
    obtain ⟨first, hfirst, others, hothers, rfl⟩ := writeXmlNodes_element_eq_ok_iff.mp h
    exact .element (e.spelled_of_writeXml hfirst) (spelled_of_writeXmlNodes nodes hothers)

end

/-! Written as HTML -/

theorem writeHtml_mk_eq_ok_iff : (Element.mk name attributes children).writeHtml = .ok text ↔
    HasNames name attributes ∧
      if isVoid name = true then children = [] ∧ text = writeOpening name attributes ++ ['>']
      else ∃ inner, writeHtmlNodes children = .ok inner ∧
        text = writeOpening name attributes ++ '>' :: (inner ++ writeEnd name) := by
  rw [Element.writeHtml, check_bind_eq_ok_iff, validate_eq_ok_iff]
  apply and_congr Iff.rfl
  by_cases hvoid : isVoid name = true
  · cases children with
    | nil => simp [hvoid, writeOpening, pure_eq_ok_iff]
    | cons node nodes => simp [hvoid]
  · simp only [hvoid, Bool.false_eq_true, if_false, bind_eq_ok_iff, pure_eq_ok_iff, writeOpening,
      List.cons_append, List.append_assoc, List.nil_append]

theorem writeHtmlNodes_text_eq_ok_iff : writeHtmlNodes (.text shown :: nodes) = .ok text ↔
    ∃ others, writeHtmlNodes nodes = .ok others ∧ text = escape shown ++ others := by
  simp only [writeHtmlNodes, bind_eq_ok_iff, pure_eq_ok_iff]

theorem writeHtmlNodes_element_eq_ok_iff : writeHtmlNodes (.element e :: nodes) = .ok text ↔
    ∃ first, e.writeHtml = .ok first ∧
      ∃ others, writeHtmlNodes nodes = .ok others ∧ text = first ++ others := by
  simp only [writeHtmlNodes, bind_eq_ok_iff, pure_eq_ok_iff]

mutual

theorem Element.spelled_of_writeHtml (e : Element) {text : List Char}
    (h : e.writeHtml = .ok text) : e.Spelled isVoid text := by
  obtain ⟨name, attributes, children⟩ := e
  obtain ⟨hnames, hform⟩ := writeHtml_mk_eq_ok_iff.mp h
  by_cases hvoid : isVoid name = true
  · obtain ⟨rfl, rfl⟩ := (if_pos hvoid ▸ hform :)
    exact .unclosed hnames hvoid
  · obtain ⟨inner, hinner, rfl⟩ := (if_neg hvoid ▸ hform :)
    exact .closed hnames (Bool.eq_false_iff.mpr hvoid) (spelled_of_writeHtmlNodes children hinner)

theorem spelled_of_writeHtmlNodes (nodes : List Node) {text : List Char}
    (h : writeHtmlNodes nodes = .ok text) : NodesSpelled isVoid nodes text := by
  match nodes with
  | [] =>
    cases h
    exact .nil
  | .text shown :: nodes =>
    obtain ⟨others, hothers, rfl⟩ := writeHtmlNodes_text_eq_ok_iff.mp h
    exact .text (spelled_of_writeHtmlNodes nodes hothers)
  | .element e :: nodes =>
    obtain ⟨first, hfirst, others, hothers, rfl⟩ := writeHtmlNodes_element_eq_ok_iff.mp h
    exact .element (e.spelled_of_writeHtml hfirst) (spelled_of_writeHtmlNodes nodes hothers)

end

end WebService.Markup
