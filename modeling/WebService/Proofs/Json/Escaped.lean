import Mathlib.Data.List.Basic
import WebService.Json.Escaped
import WebService.Proofs.Json.Order

/-!
The texts in a value, and values with other texts in their places. Escaping puts another text in the
place of each one and changes nothing else.
-/
namespace WebService.Json.Value

mutual

/-- A value with another text in the place of every text; keys stay. -/
def mapTexts (f : String → String) : Value → Value
  | text s => text (f s)
  | list items => list (mapItems f items)
  | object members => object (mapMembers f members)
  | other => other

def mapItems (f : String → String) : List Value → List Value
  | [] => []
  | item :: items => item.mapTexts f :: mapItems f items

def mapMembers (f : String → String) : List (String × Value) → List (String × Value)
  | [] => []
  | (key, value) :: rest => (key, value.mapTexts f) :: mapMembers f rest

end

mutual

/-- All texts in a value, in the order in which they stand. -/
def texts : Value → List String
  | text s => [s]
  | list items => itemTexts items
  | object members => memberTexts members
  | _ => []

def itemTexts : List Value → List String
  | [] => []
  | item :: items => item.texts ++ itemTexts items

def memberTexts : List (String × Value) → List String
  | [] => []
  | (_, value) :: rest => value.texts ++ memberTexts rest

end

/-- A value without its texts: keys, numbers, truth values and the way in which they nest. -/
def outline (v : Value) : Value := v.mapTexts fun _ => ""

variable {v : Value} {items : List Value} {members : List (String × Value)}

theorem mapItems_eq (f : String → String) (items : List Value) :
    mapItems f items = items.map (mapTexts f) := by
  induction items with
  | nil => rfl
  | cons item items ih => rw [mapItems, ih, List.map_cons]

theorem mapMembers_eq (f : String → String) (members : List (String × Value)) :
    mapMembers f members = members.map fun m => (m.1, m.2.mapTexts f) := by
  induction members with
  | nil => rfl
  | cons first rest ih => rw [mapMembers, ih, List.map_cons]

theorem itemTexts_eq (items : List Value) : itemTexts items = items.flatMap texts := by
  induction items with
  | nil => rfl
  | cons item items ih => rw [itemTexts, ih, List.flatMap_cons]

theorem memberTexts_eq (members : List (String × Value)) :
    memberTexts members = members.flatMap fun m => m.2.texts := by
  induction members with
  | nil => rfl
  | cons first rest ih => rw [memberTexts, ih, List.flatMap_cons]

theorem texts_mapTexts (f : String → String) (v : Value) :
    (v.mapTexts f).texts = v.texts.map f := by
  induction v using Value.induction_on with
  | null | boolean | number | text => rfl
  | list items ih =>
    rw [mapTexts, texts, texts, mapItems_eq, itemTexts_eq, itemTexts_eq, List.flatMap_map,
      List.map_flatMap]
    exact List.flatMap_congr ih
  | object members ih =>
    rw [mapTexts, texts, texts, mapMembers_eq, memberTexts_eq, memberTexts_eq, List.flatMap_map,
      List.map_flatMap]
    exact List.flatMap_congr ih

theorem mapTexts_mapTexts (f g : String → String) (v : Value) :
    (v.mapTexts f).mapTexts g = v.mapTexts (g ∘ f) := by
  induction v using Value.induction_on with
  | null | boolean | number | text => rfl
  | list items ih =>
    simp only [mapTexts, mapItems_eq, List.map_map]
    exact congrArg list (List.map_congr_left ih)
  | object members ih =>
    simp only [mapTexts, mapMembers_eq, List.map_map]
    refine congrArg object (List.map_congr_left ?_)
    intro m hm
    rw [Function.comp, ih m hm]

/-- Other texts leave the outline of a value as it is. -/
theorem outline_mapTexts (f : String → String) (v : Value) : (v.mapTexts f).outline = v.outline :=
  mapTexts_mapTexts f _ v

theorem isWhole_mapTexts (f : String → String) (h : v.isWhole = true) :
    (v.mapTexts f).isWhole = true := by
  induction v using Value.induction_on with
  | null | boolean | number => exact h
  | text => rfl
  | list items ih =>
    rw [mapTexts, mapItems_eq]
    refine all_list.mpr ⟨rfl, List.forall_mem_map.mpr ?_⟩
    intro v hv
    exact ih v hv ((all_list.mp h).2 v hv)
  | object members ih =>
    rw [mapTexts, mapMembers_eq]
    refine all_object.mpr ⟨rfl, List.forall_mem_map.mpr ?_⟩
    intro m hm
    exact ih m hm ((all_object.mp h).2 m hm)

theorem isOrdered_mapTexts (f : String → String) (h : v.isOrdered = true) :
    (v.mapTexts f).isOrdered = true := by
  induction v using Value.induction_on with
  | null | boolean | number | text => rfl
  | list items ih =>
    rw [mapTexts, mapItems_eq]
    refine isOrdered_list.mpr (List.forall_mem_map.mpr ?_)
    intro v hv
    exact ih v hv (isOrdered_list.mp h v hv)
  | object members ih =>
    obtain ⟨hkeys, hvalues⟩ := isOrdered_object.mp h
    rw [mapTexts, mapMembers_eq]
    refine isOrdered_object.mpr ⟨?_, List.forall_mem_map.mpr ?_⟩
    · rw [List.map_map]
      exact hkeys
    · intro m hm
      exact ih m hm (hvalues m hm)

theorem depth_mapTexts_le (f : String → String) (v : Value) : (v.mapTexts f).depth ≤ v.depth := by
  induction v using Value.induction_on with
  | null | boolean | number | text => exact Nat.le_refl _
  | list items ih =>
    rw [mapTexts, mapItems_eq]
    refine Nat.succ_le_succ (itemsDepth_le_iff.mpr (List.forall_mem_map.mpr ?_))
    intro v hv
    exact Nat.le_trans (ih v hv) (depth_le_itemsDepth hv)
  | object members ih =>
    rw [mapTexts, mapMembers_eq]
    refine Nat.succ_le_succ (membersDepth_le_iff.mpr (List.forall_mem_map.mpr ?_))
    intro m hm
    exact Nat.le_trans (ih m hm) (depth_le_membersDepth hm)

/-! Escaping -/

theorem escapedItems_eq (items : List Value) : escapedItems items = items.map (·.escaped) := by
  induction items with
  | nil => rfl
  | cons item items ih => rw [escapedItems, ih, List.map_cons]

theorem escapedMembers_eq (members : List (String × Value)) :
    escapedMembers members = members.map fun m => (m.1, m.2.escaped) := by
  induction members with
  | nil => rfl
  | cons first rest ih => rw [escapedMembers, ih, List.map_cons]

theorem escaped_eq_mapTexts (v : Value) : v.escaped = v.mapTexts escapeHtml := by
  induction v using Value.induction_on with
  | null | boolean | number | text => rfl
  | list items ih =>
    rw [escaped, mapTexts, escapedItems_eq, mapItems_eq, List.map_congr_left ih]
  | object members ih =>
    rw [escaped, mapTexts, escapedMembers_eq, mapMembers_eq]
    refine congrArg object (List.map_congr_left ?_)
    intro m hm
    rw [ih m hm]

theorem isWhole_escaped (h : v.isWhole = true) : v.escaped.isWhole = true := by
  rw [escaped_eq_mapTexts]
  exact isWhole_mapTexts _ h

theorem isOrdered_escaped (h : v.isOrdered = true) : v.escaped.isOrdered = true := by
  rw [escaped_eq_mapTexts]
  exact isOrdered_mapTexts _ h

theorem depth_escaped_le (v : Value) : v.escaped.depth ≤ v.depth := by
  rw [escaped_eq_mapTexts]
  exact depth_mapTexts_le _ v

theorem texts_escaped (v : Value) : v.escaped.texts = v.texts.map escapeHtml := by
  rw [escaped_eq_mapTexts, texts_mapTexts]

theorem outline_escaped (v : Value) : v.escaped.outline = v.outline := by
  rw [escaped_eq_mapTexts, outline_mapTexts]

end WebService.Json.Value
