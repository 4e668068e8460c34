import WebService.Proofs.Markup.Offence

/-!
HTML beside XML: where no element is void, the two differ only in elements without children, which
XML closes within the start tag. With an empty text in each of these they are written alike.
-/
namespace WebService.Markup

variable {nodes : List Node}

mutual

/-- The tree with an empty text in each element that has no children. -/
def Element.padded : Element → Element
  | .mk name attributes [] => .mk name attributes [.text ""]
  | .mk name attributes (node :: nodes) => .mk name attributes (paddedNodes (node :: nodes))

def paddedNodes : List Node → List Node
  | [] => []
  | .text s :: nodes => .text s :: paddedNodes nodes
  | .element e :: nodes => .element e.padded :: paddedNodes nodes

end

theorem paddedNodes_cons_ne_nil (node : Node) : paddedNodes (node :: nodes) ≠ [] := by
  cases node <;> simp [paddedNodes]

mutual

theorem Element.writeHtml_eq_writeXml (e : Element)
    (h : ∀ x ∈ e.elements, isVoid x.name = false) : e.writeHtml = e.padded.writeXml := by
  obtain ⟨name, attributes, children⟩ := e
  rw [Element.elements, List.forall_mem_cons] at h
  have hname : isVoid name = false := h.1
  rw [writeHtml_of_not_isVoid hname]
  cases children with
  | nil =>
    rw [Element.padded, writeXml_of_ne_nil (List.cons_ne_nil _ _)]
    rfl
  | cons node nodes =>
    rw [Element.padded, writeXml_of_ne_nil (paddedNodes_cons_ne_nil node),
      writeHtmlNodes_eq_writeXmlNodes (node :: nodes) h.2]

theorem writeHtmlNodes_eq_writeXmlNodes (nodes : List Node)
    (h : ∀ x ∈ nodeElements nodes, isVoid x.name = false) :
    writeHtmlNodes nodes = writeXmlNodes (paddedNodes nodes) := by
  match nodes with
  | [] => rfl
  | .text shown :: nodes =>
    rw [writeHtmlNodes, paddedNodes, writeXmlNodes, writeHtmlNodes_eq_writeXmlNodes nodes h]
  | .element e :: nodes =>
    rw [nodeElements, List.forall_mem_append] at h
    rw [writeHtmlNodes, paddedNodes, writeXmlNodes, e.writeHtml_eq_writeXml h.1,
      writeHtmlNodes_eq_writeXmlNodes nodes h.2]

end

/-- A tree without void elements is written as HTML just as it is written as XML with an empty text
in each element that has no children: to the same text, or to the same error. -/
theorem Element.toHtml_eq_toXml_padded (e : Element)
    (h : ∀ x ∈ e.elements, isVoid x.name = false) : e.toHtml = e.padded.toXml := by
  rw [Element.toHtml, Element.toXml, e.writeHtml_eq_writeXml h]

/-- Elements without children on two levels and marks in a text and a value, and a tree whose second
name that is none is not reported. -/
theorem Element.toHtml_eq_toXml_padded_of_mixed :
    let mixed : Element := .mk "div" [("title", "\"a\" < 'b'")]
      [.element (.mk "p" [] []), .text "1 & 2", .element (.mk "brr" [] [.text ""])]
    let text := "<div title=\"&quot;a&quot; &lt; &apos;b&apos;\"><p></p>1 &amp; 2<brr></brr></div>"
    let refused : Element := .mk "div" [] [.element (.mk "1" [] []), .element (.mk "2" [] [])]
    ((∀ x ∈ mixed.elements, isVoid x.name = false) ∧ mixed.toHtml = .ok text ∧
      mixed.padded.toXml = .ok text) ∧
    (∀ x ∈ refused.elements, isVoid x.name = false) ∧
      refused.toHtml = .error (.invalidName "1") ∧
      refused.padded.toXml = .error (.invalidName "1") := by
  intro mixed text refused
  have hmixed : ∀ x ∈ mixed.elements, isVoid x.name = false := by decide
  have hrefused : ∀ x ∈ refused.elements, isVoid x.name = false := by decide
  have htext : mixed.toHtml = .ok text := by rfl
  have herror : refused.toHtml = .error (.invalidName "1") := by rfl
  refine ⟨⟨hmixed, htext, ?_⟩, hrefused, herror, ?_⟩
  · rw [← mixed.toHtml_eq_toXml_padded hmixed, htext]
  · rw [← refused.toHtml_eq_toXml_padded hrefused, herror]

end WebService.Markup
