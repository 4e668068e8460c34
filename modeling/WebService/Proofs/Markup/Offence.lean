import WebService.Proofs.Markup.Spelled

/-!
What keeps a tree from being written: names that are none, and as HTML children of elements that
have no end tag. Both ways of writing come to the first of these in the order of the document.
-/
namespace WebService.Markup

variable {name : String} {attributes : List (String × String)} {children : List Node}
  {inner : Except Error (List Char)} {faults : List Error} {all : List String} {e : Element}

/-! Trees in the order of the document -/

mutual

/-- All elements of a tree, each before those that stand in it. -/
def Element.elements : Element → List Element
  | .mk name attributes children => .mk name attributes children :: nodeElements children

def nodeElements : List Node → List Element
  | [] => []
  | .text _ :: nodes => nodeElements nodes
  | .element e :: nodes => e.elements ++ nodeElements nodes

end

/-- The names in the tag of an element. -/
def Element.tagNames (e : Element) : List String := e.name :: e.attributes.map (·.1)

/-- All names in a tree, those of an element before those of its children. -/
def Element.names (e : Element) : List String := e.elements.flatMap Element.tagNames

/-! Offences -/

def nameOffences (name : String) : List Error := if isName name then [] else [.invalidName name]

/-- What is wrong with an element by itself: its names, and then that it has children. -/
def Element.offences (e : Element) : List Error :=
  e.tagNames.flatMap nameOffences ++
    if isVoid e.name = true ∧ e.children ≠ [] then [.voidWithChildren e.name] else []

theorem nameOffences_eq_nil_iff : nameOffences name = [] ↔ checkName name = .ok () := by
  simp [nameOffences, checkName_eq_ok_iff]

theorem flatMap_nameOffences_eq_nil_iff :
    all.flatMap nameOffences = [] ↔ ∀ name ∈ all, checkName name = .ok () := by
  simp only [List.flatMap_eq_nil_iff, nameOffences_eq_nil_iff]

/-- The first offence in names is that of the first name that is none. -/
theorem head?_flatMap_nameOffences : (all.flatMap nameOffences).head? =
    (all.find? fun name => !isName name).map .invalidName := by
  induction all with
  | nil => rfl
  | cons name all ih =>
    by_cases hname : isName name = true
    · simpa [nameOffences, hname] using ih
    · simp [nameOffences, hname]

theorem Element.offences_eq_nil_iff : e.offences = [] ↔
    (∀ name ∈ e.tagNames, checkName name = .ok ()) ∧ (isVoid e.name = true → e.children = []) := by
  rw [Element.offences, List.append_eq_nil_iff, flatMap_nameOffences_eq_nil_iff]
  simp

/-! Tags on either side -/

/-- An element with a tag on either side of what is written for its children. -/
def writeClosed (name : String) (attributes : List (String × String))
    (inner : Except Error (List Char)) : Except Error (List Char) := do
  (Element.mk name attributes []).validate
  return writeOpening name attributes ++ '>' :: ((← inner) ++ writeEnd name)

theorem validate_mk : (Element.mk name attributes children).validate =
    (Element.mk name attributes []).validate := rfl

theorem writeXml_of_ne_nil (h : children ≠ []) :
    (Element.mk name attributes children).writeXml =
      writeClosed name attributes (writeXmlNodes children) := by
  cases children with
  | nil => exact absurd rfl h
  | cons node nodes =>
    rw [Element.writeXml, validate_mk]
    rfl

theorem writeHtml_of_not_isVoid (h : isVoid name = false) :
    (Element.mk name attributes children).writeHtml =
      writeClosed name attributes (writeHtmlNodes children) := by
  rw [Element.writeHtml, validate_mk]
  simp [h, writeClosed, writeOpening]

/-! What writing comes to -/

theorem reports_checkName (name : String) : Reports (checkName name) (nameOffences name) := by
  unfold checkName nameOffences
  split
  · exact reports_pure ()
  · rfl

theorem reports_validate (e : Element) :
    Reports e.validate (e.tagNames.flatMap nameOffences) := by
  have hattribute : ∀ a : String × String,
      Reports (checkName a.1) (nameOffences a.1) := fun a => reports_checkName a.1
  have hattributes := reports_forM hattribute e.attributes
  rw [Element.tagNames, List.flatMap_cons, List.flatMap_map]
  exact (reports_checkName e.name).bind fun _ => hattributes

theorem reports_writeClosed (h : Reports inner faults) :
    Reports (writeClosed name attributes inner)
      ((Element.mk name attributes children).tagNames.flatMap nameOffences ++ faults) := by
  exact (reports_validate (.mk name attributes [])).bind fun _ => h.bind_pure _

mutual

theorem Element.reports_writeXml (e : Element) :
    Reports e.writeXml (e.names.flatMap nameOffences) := by
  obtain ⟨name, attributes, children⟩ := e
  rw [Element.names, Element.elements, List.flatMap_cons, List.flatMap_append]
  cases children with
  | nil =>
    rw [Element.writeXml]
    exact (reports_validate _).bind fun _ => reports_pure _
  | cons node nodes =>
    rw [writeXml_of_ne_nil (List.cons_ne_nil node nodes)]
    exact reports_writeClosed (reports_writeXmlNodes (node :: nodes))

theorem reports_writeXmlNodes (nodes : List Node) : Reports (writeXmlNodes nodes)
    (((nodeElements nodes).flatMap Element.tagNames).flatMap nameOffences) := by
  match nodes with
  | [] => exact reports_pure _
  | .text shown :: nodes =>
    rw [nodeElements, writeXmlNodes]
    exact (reports_writeXmlNodes nodes).bind_pure _
  | .element e :: nodes =>
    rw [nodeElements, List.flatMap_append, List.flatMap_append, writeXmlNodes]
    exact e.reports_writeXml.bind fun first => (reports_writeXmlNodes nodes).bind_pure _

end

mutual

theorem Element.reports_writeHtml (e : Element) :
    Reports e.writeHtml (e.elements.flatMap Element.offences) := by
  obtain ⟨name, attributes, children⟩ := e
  rw [Element.elements, List.flatMap_cons, Element.offences, List.append_assoc]
  by_cases hvoid : isVoid name = true
  · -- A void element with children is an offence already, whatever stands in it.
    rw [Element.writeHtml]
    refine (reports_validate _).bind fun _ => ?_
    cases children with
    | nil => simpa [hvoid, Element.children, nodeElements] using reports_pure _
    | cons node nodes => simp [hvoid, Element.name, Element.children, Reports]
  · rw [if_neg fun h => hvoid h.1, List.nil_append,
      writeHtml_of_not_isVoid (Bool.eq_false_iff.mpr hvoid)]
    exact reports_writeClosed (reports_writeHtmlNodes children)

theorem reports_writeHtmlNodes (nodes : List Node) :
    Reports (writeHtmlNodes nodes) ((nodeElements nodes).flatMap Element.offences) := by
  match nodes with
  | [] => exact reports_pure _
  | .text shown :: nodes =>
    rw [nodeElements, writeHtmlNodes]
    exact (reports_writeHtmlNodes nodes).bind_pure _
  | .element e :: nodes =>
    rw [nodeElements, List.flatMap_append, writeHtmlNodes]
    exact e.reports_writeHtml.bind fun first => (reports_writeHtmlNodes nodes).bind_pure _

end

/-- A tree is written as XML just if all its names are names, and as HTML just if, besides, no void
element has children. What is reported otherwise is the first offence in the order of the document:
for each element its names, then as HTML its children, and behind these what stands in it. -/
theorem Element.first_offence_reported (e : Element) :
    ((∃ text, e.toXml = .ok text) ↔ ∀ name ∈ e.names, checkName name = .ok ()) ∧
    (∀ error, e.toXml = .error error ↔ ∃ name,
      e.names.find? (fun name => !isName name) = some name ∧ error = .invalidName name ∧
        error.message = "invalid XML name: '" ++ name ++ "'") ∧
    ((∃ text, e.toHtml = .ok text) ↔ (∀ name ∈ e.names, checkName name = .ok ()) ∧
      ∀ x ∈ e.elements, isVoid x.name = true → x.children = []) ∧
    (∀ error, e.toHtml = .error error ↔
      (e.elements.flatMap Element.offences).head? = some error) := by
  have hxml : Reports e.toXml (e.names.flatMap nameOffences) := e.reports_writeXml.map _
  have hhtml : Reports e.toHtml (e.elements.flatMap Element.offences) := e.reports_writeHtml.map _
  refine ⟨?_, fun error => ?_, ?_, fun error => hhtml.eq_error_iff⟩
  · rw [hxml.exists_eq_ok_iff, flatMap_nameOffences_eq_nil_iff]
  · rw [hxml.eq_error_iff, head?_flatMap_nameOffences, Option.map_eq_some_iff]
    constructor
    · rintro ⟨name, hfirst, rfl⟩
      exact ⟨name, hfirst, rfl, rfl⟩
    · rintro ⟨name, hfirst, rfl, -⟩
      exact ⟨name, hfirst, rfl⟩
  · rw [hhtml.exists_eq_ok_iff, List.flatMap_eq_nil_iff]
    simp only [Element.offences_eq_nil_iff, Element.names, List.mem_flatMap]
    constructor
    · intro h
      refine ⟨?_, fun x hx => (h x hx).2⟩
      rintro name ⟨x, hx, hname⟩
      exact (h x hx).1 name hname
    · rintro ⟨hnames, hvoid⟩ x hx
      exact ⟨fun name hname => hnames name ⟨x, hx, hname⟩, hvoid x hx⟩

/-- A void element is refused for its children before these are looked at. -/
example : (Element.mk "p" [("a", "<")] [.text "x", .element (.mk "BR" [] [.element
    (.mk "1" [] [])])]).toHtml = .error (.voidWithChildren "BR") := by rfl

end WebService.Markup
