import Mathlib.Data.List.Induction
import WebService.Proofs.Json.Value
import WebService.Proofs.Lookup

/-!
Values in key order. Sorting puts the members of every object in the order of their keys, each key
once, and leaves a value alone that is in order.
-/
namespace WebService.Json.Value

variable {key : String} {value v : Value} {m : String × Value} {items : List Value}
  {members : List (String × Value)}

/-- Whether the members of every object stand in the order of their keys, and no key stands
twice. -/
def isOrdered (v : Value) : Bool :=
  v.all fun
    | object members => (members.map (·.1)).Pairwise (· < ·)
    | _ => true

theorem isOrdered_list : (list items).isOrdered = true ↔ ∀ v ∈ items, v.isOrdered = true := by
  rw [isOrdered, all_list, eq_self, true_and]
  rfl

theorem isOrdered_object : (object members).isOrdered = true ↔
    (members.map (·.1)).Pairwise (· < ·) ∧ ∀ m ∈ members, m.2.isOrdered = true := by
  rw [isOrdered, all_object, decide_eq_true_iff]
  rfl

/-! Members put in their places -/

theorem mem_insert (h : m ∈ insert key value members) : m = (key, value) ∨ m ∈ members := by
  induction members with
  | nil => exact Or.inl (List.mem_singleton.mp h)
  | cons first rest ih =>
    obtain ⟨k, old⟩ := first
    rw [insert] at h
    split at h
    · exact List.mem_cons.mp h
    · split at h
      · rcases List.mem_cons.mp h with rfl | h
        · exact Or.inl rfl
        · exact Or.inr (List.mem_cons_of_mem _ h)
      · rcases List.mem_cons.mp h with rfl | h
        · exact Or.inr List.mem_cons_self
        · exact (ih h).imp_right (List.mem_cons_of_mem _)

theorem pairwise_insert (h : (members.map (·.1)).Pairwise (· < ·)) :
    ((insert key value members).map (·.1)).Pairwise (· < ·) := by
  induction members with
  | nil => exact List.pairwise_singleton _ _
  | cons first rest ih =>
    obtain ⟨k, old⟩ := first
    rw [List.map_cons, List.pairwise_cons] at h
    obtain ⟨hfirst, hrest⟩ := h
    rw [insert]
    split
    · rename_i hlt
      refine List.pairwise_cons.mpr ⟨?_, List.pairwise_cons.mpr ⟨hfirst, hrest⟩⟩
      intro other hother
      rcases List.mem_cons.mp hother with rfl | hother
      · exact hlt
      · exact String.lt_trans hlt (hfirst other hother)
    · split
      · rename_i heq
        exact List.pairwise_cons.mpr ⟨heq ▸ hfirst, hrest⟩
      · rename_i hnot hne
        refine List.pairwise_cons.mpr ⟨?_, ih hrest⟩
        intro other hother
        obtain ⟨m, hm, rfl⟩ := List.mem_map.mp hother
        rcases mem_insert hm with rfl | hm
        · exact Std.lt_of_le_of_ne (String.not_lt.mp hnot) (Ne.symm hne)
        · exact hfirst m.1 (List.mem_map_of_mem hm)

/-- A member whose key is above all others goes to the end. -/
theorem insert_of_forall_lt (h : ∀ m ∈ members, m.1 < key) :
    insert key value members = members ++ [(key, value)] := by
  induction members with
  | nil => rfl
  | cons first rest ih =>
    obtain ⟨k, old⟩ := first
    have hk : k < key := h (k, old) List.mem_cons_self
    have hnot : ¬ key < k := fun hlt => String.lt_irrefl k (String.lt_trans hk hlt)
    have hne : key ≠ k := fun heq => String.lt_irrefl k (heq ▸ hk)
    rw [insert, if_neg hnot, if_neg hne, ih fun m hm => h m (List.mem_cons_of_mem _ hm)]
    rfl

theorem lookup_insert (key k : String) (value : Value) (members : List (String × Value)) :
    (insert key value members).lookup k = if k = key then some value else members.lookup k := by
  induction members with
  | nil => exact lookup_cons_eq key k value []
  | cons first rest ih =>
    obtain ⟨name, old⟩ := first
    rw [insert]
    split
    · exact lookup_cons_eq key k value _
    · split
      · rename_i hname
        rw [lookup_cons_eq, lookup_cons_eq, hname]
        split <;> rfl
      · rename_i hname
        rw [lookup_cons_eq, lookup_cons_eq, ih]
        split
        · rename_i hk
          rw [if_neg (hk ▸ Ne.symm hname)]
        · rfl

theorem arrange_concat (members : List (String × Value)) (m : String × Value) :
    arrange (members ++ [m]) = insert m.1 m.2 (arrange members) := by
  rw [arrange, List.foldl_append]
  rfl

theorem mem_arrange (h : m ∈ arrange members) : m ∈ members := by
  induction members using List.reverseRecOn with
  | nil => exact h
  | append_singleton members last ih =>
    rw [arrange_concat] at h
    rcases mem_insert h with rfl | h
    · exact List.mem_append_right _ List.mem_cons_self
    · exact List.mem_append_left _ (ih h)

theorem pairwise_arrange (members : List (String × Value)) :
    ((arrange members).map (·.1)).Pairwise (· < ·) := by
  induction members using List.reverseRecOn with
  | nil => exact List.Pairwise.nil
  | append_singleton members last ih =>
    rw [arrange_concat]
    exact pairwise_insert ih

/-- Of several members with one key the last one counts. -/
theorem lookup_arrange (members : List (String × Value)) (key : String) :
    (arrange members).lookup key = members.reverse.lookup key := by
  induction members using List.reverseRecOn with
  | nil => rfl
  | append_singleton members last ih =>
    rw [arrange_concat, lookup_insert, List.reverse_concat, lookup_cons_eq, ih]

theorem arrange_of_pairwise (h : (members.map (·.1)).Pairwise (· < ·)) :
    arrange members = members := by
  induction members using List.reverseRecOn with
  | nil => rfl
  | append_singleton members last ih =>
    rw [List.map_append, List.pairwise_append] at h
    obtain ⟨hmembers, -, hlast⟩ := h
    rw [arrange_concat, ih hmembers]
    refine insert_of_forall_lt ?_
    intro m hm
    exact hlast m.1 (List.mem_map_of_mem hm) last.1 List.mem_cons_self

/-! Sorted values -/

theorem sortedItems_eq (items : List Value) : sortedItems items = items.map (·.sorted) := by
  induction items with
  | nil => rfl
  | cons item items ih => rw [sortedItems, ih, List.map_cons]

theorem sortedMembers_eq (members : List (String × Value)) :
    sortedMembers members = members.map fun m => (m.1, m.2.sorted) := by
  induction members with
  | nil => rfl
  | cons first rest ih => rw [sortedMembers, ih, List.map_cons]

/-- If no key stands twice, each member is found among the members in key order. -/
theorem member?_sorted (hnodup : (members.map (·.1)).Nodup) (h : (key, value) ∈ members) :
    (object members).sorted.member? key = some value.sorted := by
  have hkeys : (sortedMembers members).map (·.1) = members.map (·.1) := by
    rw [sortedMembers_eq, List.map_map]
    rfl
  have hmem : (key, value.sorted) ∈ (sortedMembers members).reverse := by
    rw [List.mem_reverse, sortedMembers_eq]
    exact List.mem_map.mpr ⟨(key, value), h, rfl⟩
  rw [sorted, member?_object, lookup_arrange]
  refine lookup_of_mem ?_ hmem
  rw [List.map_reverse, hkeys]
  exact (List.reverse_perm _).nodup_iff.mpr hnodup

theorem exists_of_mem_sorted (h : m ∈ arrange (sortedMembers members)) :
    ∃ old ∈ members, m = (old.1, old.2.sorted) := by
  have hm := mem_arrange h
  rw [sortedMembers_eq] at hm
  obtain ⟨old, hold, rfl⟩ := List.mem_map.mp hm
  exact ⟨old, hold, rfl⟩

theorem isOrdered_sorted (v : Value) : v.sorted.isOrdered = true := by
  induction v using Value.induction_on with
  | null | boolean | number | text => rfl
  | list items ih =>
    rw [sorted, sortedItems_eq]
    exact isOrdered_list.mpr (List.forall_mem_map.mpr ih)
  | object members ih =>
    refine isOrdered_object.mpr ⟨pairwise_arrange _, ?_⟩
    intro m hm
    obtain ⟨old, hold, rfl⟩ := exists_of_mem_sorted hm
    exact ih old hold

/-- A value in order is left as it is. -/
theorem sorted_of_isOrdered (h : v.isOrdered = true) : v.sorted = v := by
  induction v using Value.induction_on with
  | null | boolean | number | text => rfl
  | list items ih =>
    have hitems : items.map (·.sorted) = items :=
      (List.map_congr_left fun v hv => ih v hv (isOrdered_list.mp h v hv)).trans (List.map_id _)
    rw [sorted, sortedItems_eq, hitems]
  | object members ih =>
    obtain ⟨hkeys, hvalues⟩ := isOrdered_object.mp h
    have hmembers : members.map (fun m => (m.1, m.2.sorted)) = members := by
      refine (List.map_congr_left ?_).trans (List.map_id _)
      intro m hm
      rw [ih m hm (hvalues m hm)]
      rfl
    rw [sorted, sortedMembers_eq, hmembers, arrange_of_pairwise hkeys]

theorem isWhole_sorted (h : v.isWhole = true) : v.sorted.isWhole = true := by
  induction v using Value.induction_on with
  | null | boolean | number | text => exact h
  | list items ih =>
    rw [sorted, sortedItems_eq]
    refine all_list.mpr ⟨rfl, List.forall_mem_map.mpr ?_⟩
    intro v hv
    exact ih v hv ((all_list.mp h).2 v hv)
  | object members ih =>
    refine all_object.mpr ⟨rfl, ?_⟩
    intro m hm
    obtain ⟨old, hold, rfl⟩ := exists_of_mem_sorted hm
    exact ih old hold ((all_object.mp h).2 old hold)

theorem depth_sorted_le (v : Value) : v.sorted.depth ≤ v.depth := by
  induction v using Value.induction_on with
  | null | boolean | number | text => exact Nat.le_refl _
  | list items ih =>
    rw [sorted, sortedItems_eq]
    refine Nat.succ_le_succ (itemsDepth_le_iff.mpr (List.forall_mem_map.mpr ?_))
    intro v hv
    exact Nat.le_trans (ih v hv) (depth_le_itemsDepth hv)
  | object members ih =>
    refine Nat.succ_le_succ (membersDepth_le_iff.mpr ?_)
    intro m hm
    obtain ⟨old, hold, rfl⟩ := exists_of_mem_sorted hm
    exact Nat.le_trans (ih old hold) (depth_le_membersDepth hold)

end WebService.Json.Value
