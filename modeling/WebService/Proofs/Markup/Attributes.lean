import Mathlib.Data.List.Induction
import WebService.Proofs.Lookup
import WebService.Proofs.Markup.Offence
import WebService.Proofs.Markup.Wellformed

/-!
Attributes in the order in which their names are first set, each with its last value. So no tag that
is written has an attribute twice.
-/
namespace WebService.Markup

variable {void : String → Bool} {name key value : String} {attributes : List (String × String)}
  {nodes : List Node} {cs rest text : List Char} {e : Element} {calls : List Call}

/-! Calls -/

/-- A call on an element. -/
inductive Call where
  | attr (name value : String)
  | child (inner : Element)
  | text (s : String)

/-- The attribute that a call sets, with its value. -/
def Call.setting? : Call → Option (String × String)
  | .attr name value => some (name, value)
  | .child _ | .text _ => none

def settings (calls : List Call) : List (String × String) := calls.filterMap Call.setting?

def setAttributes (settings attributes : List (String × String)) : List (String × String) :=
  settings.foldl (fun attributes s => setAttribute s.1 s.2 attributes) attributes

namespace Element

def call (e : Element) : Call → Element
  | .attr name value => e.attr name value
  | .child inner => e.child inner
  | .text s => e.text s

/-- What calls, one after the other, make of an element. -/
def after (e : Element) (calls : List Call) : Element := calls.foldl call e

theorem attributes_after :
    (e.after calls).attributes = setAttributes (settings calls) e.attributes := by
  induction calls generalizing e with
  | nil => rfl
  | cons call calls ih =>
    cases call with
    | attr name value => exact ih
    | child inner => exact ih
    | text s => exact ih

theorem IsMade.after (h : e.IsMade) (hinner : ∀ inner, .child inner ∈ calls → inner.IsMade) :
    (e.after calls).IsMade := by
  induction calls generalizing e with
  | nil => exact h
  | cons call calls ih =>
    have hcalls : ∀ inner, .child inner ∈ calls → inner.IsMade :=
      fun inner hm => hinner inner (List.mem_cons_of_mem _ hm)
    cases call with
    | attr name value => exact ih (.attr name value h) hcalls
    | child inner => exact ih (.child h (hinner inner List.mem_cons_self)) hcalls
    | text s => exact ih (.text s h) hcalls

end Element

/-! Attributes after calls -/

theorem lookup_setAttribute : (setAttribute name value attributes).lookup key =
    if key = name then some value else attributes.lookup key := by
  induction attributes with
  | nil => rw [setAttribute, lookup_cons_eq]
  | cons first others ih =>
    obtain ⟨n, v⟩ := first
    rw [setAttribute]
    split
    · rename_i hname
      rw [hname, lookup_cons_eq, lookup_cons_eq]
      split <;> rfl
    · rename_i hname
      rw [lookup_cons_eq, ih, lookup_cons_eq]
      split
      · rename_i hkey
        rw [if_neg (hkey ▸ hname)]
      · rfl

theorem setAttributes_concat (settings : List (String × String)) (setting : String × String) :
    setAttributes (settings ++ [setting]) attributes =
      setAttribute setting.1 setting.2 (setAttributes settings attributes) := by
  rw [setAttributes, List.foldl_append]
  rfl

theorem nodup_setAttributes (settings : List (String × String))
    (h : (attributes.map (·.1)).Nodup) : ((setAttributes settings attributes).map (·.1)).Nodup := by
  induction settings generalizing attributes with
  | nil => exact h
  | cons setting settings ih => exact ih (nodup_map_setAttribute setting.2 h)

theorem map_setAttributes (settings : List (String × String)) :
    (setAttributes settings []).map (·.1) = (settings.map (·.1)).eraseDups := by
  -- From the end, where a call finds its name or adds it.
  induction settings using List.reverseRecOn with
  | nil => rfl
  | append_singleton settings setting ih =>
    rw [setAttributes_concat, map_setAttribute, ih, List.map_append, List.map_singleton,
      eraseDups_concat]
    simp only [List.mem_eraseDups]

theorem lookup_setAttributes (settings : List (String × String)) (key : String) :
    (setAttributes settings []).lookup key = settings.reverse.lookup key := by
  induction settings using List.reverseRecOn with
  | nil => rfl
  | append_singleton settings setting ih =>
    rw [setAttributes_concat, lookup_setAttribute, ih, List.reverse_concat, lookup_cons_eq]

/-! Tags in a text -/

/-- The attributes of a tag, if all between its name and its end is read as attributes. -/
def tagAttributes (tag : List Char) : Option (List (String × String)) :=
  match readAttributes tag.length (tag.dropWhile isNameChar) with
  | some (attributes, '>' :: _) => some attributes
  | some (attributes, '/' :: '>' :: _) => some attributes
  | _ => none

/-- The start tags in a text, each as its attributes. -/
def startTags : List Char → List (Option (List (String × String)))
  | [] => []
  | c :: cs =>
    if c = '<' ∧ cs.head? ≠ some '/' then tagAttributes cs :: startTags cs else startTags cs

theorem startTags_append (h : '<' ∉ cs) (rest : List Char) :
    startTags (cs ++ rest) = startTags rest := by
  induction cs with
  | nil => rfl
  | cons c cs ih =>
    rw [List.mem_cons, not_or] at h
    rw [List.cons_append, startTags, if_neg fun hc => h.1 hc.1.symm, ih h.2]

theorem not_mem_of_isName (h : isName name = true) : '<' ∉ name.toList :=
  Text.not_mem_of_forall (fun _ hc => isNameChar_of_mem h hc) (by decide)

theorem not_mem_writeAttributes (h : ∀ a ∈ attributes, isName a.1 = true) :
    '<' ∉ writeAttributes attributes := by
  simp only [writeAttributes, List.mem_flatMap, not_exists, not_and]
  rintro ⟨name, value⟩ ha
  have hname := not_mem_of_isName (h _ ha)
  have hvalue := not_mem_escape (.inl rfl) value
  simp [hname, hvalue]

theorem startTags_writeEnd (h : isName name = true) (rest : List Char) :
    startTags (writeEnd name ++ rest) = startTags rest := by
  have hmarks : '<' ∉ '/' :: (name.toList ++ ['>']) := by simp [not_mem_of_isName h]
  rw [writeEnd, List.cons_append, startTags, if_neg (by simp)]
  exact startTags_append hmarks rest

theorem tagAttributes_written {ending : List Char} (hnames : HasNames name attributes)
    (hending : ending = ['>'] ∨ ending = ['/', '>']) (rest : List Char) :
    tagAttributes (name.toList ++ (writeAttributes attributes ++ (ending ++ rest))) =
      some attributes := by
  have hlength : attributes.length ≤
      (name.toList ++ (writeAttributes attributes ++ (ending ++ rest))).length := by
    have hwritten := length_le_writeAttributes attributes
    simp only [List.length_append]
    omega
  rcases hending with rfl | rfl
  · obtain ⟨-, hleft⟩ := span_writeAttributes hnames.1 (by decide : isNameChar '>' = false)
      attributes rest
    have hread := readAttributes_writeAttributes rest hnames.2 (by decide : '>' ≠ ' ') hlength
    simp only [List.cons_append, List.nil_append] at hread ⊢
    rw [tagAttributes, hleft, hread]
    rfl
  · obtain ⟨-, hleft⟩ := span_writeAttributes hnames.1 (by decide : isNameChar '/' = false)
      attributes ('>' :: rest)
    have hread := readAttributes_writeAttributes ('>' :: rest) hnames.2 (by decide : '/' ≠ ' ')
      hlength
    simp only [List.cons_append, List.nil_append] at hread ⊢
    rw [tagAttributes, hleft, hread]
    rfl

/-- A tag that is written is found with its attributes, and no other one in it. -/
theorem startTags_writeOpening {ending : List Char} (hnames : HasNames name attributes)
    (hending : ending = ['>'] ∨ ending = ['/', '>']) (rest : List Char) :
    startTags (writeOpening name attributes ++ (ending ++ rest)) =
      some attributes :: startTags rest := by
  obtain ⟨first, others, hname, hstart⟩ := isName_cons hnames.1
  have hslash : first ≠ '/' := by
    rintro rfl
    exact absurd hstart (by decide)
  have hmarks : '<' ∉ name.toList ++ writeAttributes attributes ++ ending := by
    have hending' : '<' ∉ ending := by rcases hending with rfl | rfl <;> decide
    simp [not_mem_of_isName hnames.1, not_mem_writeAttributes hnames.2, hending']
  have hnone := startTags_append hmarks rest
  simp only [List.append_assoc] at hnone
  rw [writeOpening, List.cons_append, List.append_assoc, startTags,
    if_pos (by simp [hname, hslash]), tagAttributes_written hnames hending, hnone]

/-! Tags of a tree -/

mutual

/-- The tags in the text of an element are its own and those of the elements in it, in order. -/
theorem Element.startTags_of_spelled (e : Element) {text : List Char} (h : e.Spelled void text)
    (rest : List Char) : startTags (text ++ rest) =
      e.elements.map (fun x => some x.attributes) ++ startTags rest := by
  cases h with
  | @hollow name attributes hnames =>
    rw [List.append_assoc, startTags_writeOpening hnames (.inr rfl)]
    rfl
  | @unclosed name attributes hnames _ =>
    rw [List.append_assoc, startTags_writeOpening hnames (.inl rfl)]
    rfl
  | @closed name attributes children inner hnames _ hinner =>
    have hchildren := startTags_of_nodesSpelled children hinner (writeEnd name ++ rest)
    have hopening := startTags_writeOpening hnames (.inl rfl) (inner ++ (writeEnd name ++ rest))
    rw [startTags_writeEnd hnames.1] at hchildren
    rw [hchildren] at hopening
    simpa [Element.elements, Element.attributes] using hopening

theorem startTags_of_nodesSpelled (nodes : List Node) {text : List Char}
    (h : NodesSpelled void nodes text) (rest : List Char) : startTags (text ++ rest) =
      (nodeElements nodes).map (fun x => some x.attributes) ++ startTags rest := by
  cases h with
  | nil => rfl
  | @text shown nodes others hothers =>
    rw [List.append_assoc, startTags_append (not_mem_escape (.inl rfl) shown)]
    exact startTags_of_nodesSpelled nodes hothers rest
  | @element e nodes first others hfirst hothers =>
    rw [List.append_assoc, e.startTags_of_spelled hfirst, startTags_of_nodesSpelled nodes hothers,
      nodeElements, List.map_append, List.append_assoc]

end

mutual

theorem Element.Distinct.nodup (e : Element) (h : e.Distinct) :
    ∀ x ∈ e.elements, (x.attributes.map (·.1)).Nodup := by
  obtain ⟨name, attributes, children⟩ := e
  rw [Element.elements, List.forall_mem_cons]
  exact ⟨h.1, nodup_of_nodesDistinct children h.2⟩

theorem nodup_of_nodesDistinct (nodes : List Node) (h : NodesDistinct nodes) :
    ∀ x ∈ nodeElements nodes, (x.attributes.map (·.1)).Nodup := by
  match nodes with
  | [] => exact List.forall_mem_nil _
  | .text _ :: nodes => exact nodup_of_nodesDistinct nodes h
  | .element e :: nodes =>
    have hfirst := Element.Distinct.nodup e h.1
    exact List.forall_mem_append.mpr ⟨hfirst, nodup_of_nodesDistinct nodes h.2⟩

end

theorem startTags_of_written {text : String} (h : e.toXml = .ok text ∨ e.toHtml = .ok text) :
    startTags text.toList = e.elements.map fun x => some x.attributes := by
  obtain ⟨void, written, rfl, hspelled⟩ : ∃ void written, text = String.ofList written ∧
      e.Spelled void written := by
    rcases h with h | h
    · exact ⟨_, exists_spelled_of_toXml h⟩
    · exact ⟨_, exists_spelled_of_toHtml h⟩
  have htags := e.startTags_of_spelled hspelled []
  rwa [List.append_nil, startTags, List.append_nil, ← String.toList_ofList (l := written)] at htags

/-- The names of attributes are distinct and come in the order in which calls first set them, where
names in different case are two; each has the value that was set last. In a text that is written the
start tags are those of the elements in the tree, and none has a name twice. -/
theorem attributes_form_ordered_map (name : String) (calls : List Call) :
    let e := (Element.named name).after calls
    (e.attributes.map (·.1)).Nodup ∧
    e.attributes.map (·.1) = ((settings calls).map (·.1)).eraseDups ∧
    (∀ key, e.getAttr? key = (settings calls).reverse.lookup key) ∧
    ((∀ inner, .child inner ∈ calls → inner.IsMade) →
      ∀ text, e.toXml = .ok text ∨ e.toHtml = .ok text →
        startTags text.toList = e.elements.map (fun x => some x.attributes) ∧
        ∀ tag ∈ startTags text.toList, ∃ found, tag = some found ∧ (found.map (·.1)).Nodup) := by
  intro e
  have hattributes : e.attributes = setAttributes (settings calls) [] := Element.attributes_after
  have hnames : e.attributes.map (·.1) = ((settings calls).map (·.1)).eraseDups := by
    rw [hattributes, map_setAttributes]
  refine ⟨?_, hnames, fun key => ?_, fun hinner text htext => ?_⟩
  · rw [hattributes]
    exact nodup_setAttributes (settings calls) List.nodup_nil
  · rw [Element.getAttr?, hattributes, lookup_setAttributes]
  · have hmade : e.IsMade := (Element.IsMade.named name).after hinner
    have htags := startTags_of_written htext
    refine ⟨htags, fun tag htag => ?_⟩
    rw [htags, List.mem_map] at htag
    obtain ⟨x, hx, rfl⟩ := htag
    exact ⟨x.attributes, rfl, Element.Distinct.nodup e hmade.distinct x hx⟩

/-- An attribute that is set again behind a child and a text, names in two cases, and a value that
looks like attributes. -/
theorem attributes_form_ordered_map_of_mixed :
    let inner := ((Element.named "br").attr "b" "\" z='1'").attr "B" "<"
    let calls : List Call :=
      [.attr "z" "1", .child inner, .attr "Z" "2", .text "<a z=", .attr "z" "3"]
    let e := (Element.named "a").after calls
    let xml := "<a z=\"3\" Z=\"2\"><br b=\"&quot; z=&apos;1&apos;\" B=\"&lt;\"/>&lt;a z=</a>"
    let html := "<a z=\"3\" Z=\"2\"><br b=\"&quot; z=&apos;1&apos;\" B=\"&lt;\">&lt;a z=</a>"
    (∀ inner, .child inner ∈ calls → inner.IsMade) ∧ e.toXml = .ok xml ∧ e.toHtml = .ok html ∧
      e.attributes.map (·.1) = ["z", "Z"] ∧ e.getAttr? "z" = some "3" ∧ e.getAttr? "b" = none ∧
      startTags xml.toList = [some [("z", "3"), ("Z", "2")], some [("b", "\" z='1'"), ("B", "<")]] ∧
      startTags html.toList = startTags xml.toList ∧
      ∀ tag ∈ startTags html.toList, ∃ found, tag = some found ∧ (found.map (·.1)).Nodup := by
  intro inner calls e xml html
  have hinner : ∀ inner, .child inner ∈ calls → inner.IsMade := by
    intro child hchild
    simp only [calls, List.mem_cons, reduceCtorEq, false_or, or_false, Call.child.injEq,
      List.not_mem_nil] at hchild
    rw [hchild]
    exact .attr _ _ (.attr _ _ (.named _))
  have htree : e = .mk "a" [("z", "3"), ("Z", "2")]
      [.element (.mk "br" [("b", "\" z='1'"), ("B", "<")] []), .text "<a z="] := by rfl
  have hxml : e.toXml = .ok xml := by
    rw [htree]
    rfl
  have hhtml : e.toHtml = .ok html := by
    rw [htree]
    rfl
  obtain ⟨-, hnames, hlookup, htags⟩ := attributes_form_ordered_map "a" calls
  obtain ⟨hxmlTags, -⟩ := htags hinner xml (.inl hxml)
  obtain ⟨hhtmlTags, hnodup⟩ := htags hinner html (.inr hhtml)
  exact ⟨hinner, hxml, hhtml, hnames, hlookup "z", hlookup "b", hxmlTags,
    hhtmlTags.trans hxmlTags.symm, hnodup⟩

end WebService.Markup
