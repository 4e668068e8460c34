/-!
Lists of keys with what stands under them.
-/
namespace WebService

variable {α : Type} {key k : String} {a : α} {entries : List (String × α)}

theorem lookup_cons_of_ne (h : key ≠ k) : ((k, a) :: entries).lookup key = entries.lookup key := by
  rw [List.lookup_cons, beq_false_of_ne h]

theorem lookup_cons_eq (key k : String) (a : α) (entries : List (String × α)) :
    ((key, a) :: entries).lookup k = if k = key then some a else entries.lookup k := by
  split
  · rename_i hk
    rw [hk, List.lookup_cons_self]
  · rename_i hk
    exact lookup_cons_of_ne hk

theorem lookup_eq_none_of_not_mem (h : key ∉ entries.map (·.1)) : entries.lookup key = none := by
  rw [List.lookup_eq_none_iff]
  intro entry hentry
  rw [bne_iff_ne]
  rintro rfl
  exact h (List.mem_map_of_mem hentry)

theorem mem_of_lookup (h : entries.lookup key = some a) : (key, a) ∈ entries := by
  obtain ⟨before, behind, rfl, -⟩ := List.lookup_eq_some_iff.mp h
  exact List.mem_append_right _ List.mem_cons_self

theorem mem_keys_iff_lookup :
    key ∈ entries.map (·.1) ↔ ∃ a, entries.lookup key = some a := by
  constructor
  · intro hkey
    cases hl : entries.lookup key with
    | some a => exact ⟨a, rfl⟩
    | none =>
      obtain ⟨entry, hentry, rfl⟩ := List.mem_map.mp hkey
      exact absurd (List.lookup_eq_none_iff.mp hl entry hentry) (by simp)
  · rintro ⟨a, ha⟩
    exact List.mem_map.mpr ⟨(key, a), mem_of_lookup ha, rfl⟩

theorem not_mem_of_nodup {before behind : List (String × α)}
    (hnodup : ((before ++ (key, a) :: behind).map (·.1)).Nodup) : key ∉ before.map (·.1) := by
  rw [List.map_append, List.nodup_append] at hnodup
  intro hmem
  exact hnodup.2.2 key hmem key List.mem_cons_self rfl

/-- If no key stands twice, each is found. -/
theorem lookup_of_mem (hnodup : (entries.map (·.1)).Nodup) (h : (key, a) ∈ entries) :
    entries.lookup key = some a := by
  induction entries with
  | nil => cases h
  | cons first rest ih =>
    obtain ⟨k, b⟩ := first
    rw [List.map_cons, List.nodup_cons] at hnodup
    rcases List.mem_cons.mp h with heq | hrest
    · cases heq
      exact List.lookup_cons_self
    · have hne : key ≠ k := by
        rintro rfl
        exact hnodup.1 (List.mem_map.mpr ⟨(key, a), hrest, rfl⟩)
      rw [lookup_cons_of_ne hne]
      exact ih hnodup.2 hrest

theorem lookup_map {β : Type} (f : α → β) (entries : List (String × α)) (key : String) :
    (entries.map fun e => (e.1, f e.2)).lookup key = (entries.lookup key).map f := by
  induction entries with
  | nil => rfl
  | cons first rest ih =>
    obtain ⟨k, a⟩ := first
    rw [List.map_cons]
    by_cases hkey : key = k
    · subst hkey
      rw [List.lookup_cons_self, List.lookup_cons_self]
      rfl
    · rw [lookup_cons_of_ne hkey, lookup_cons_of_ne hkey, ih]

/-- One more element comes last, if it is new. -/
theorem eraseDups_concat {β : Type} [BEq β] [LawfulBEq β] (l : List β) (b : β) :
    (l ++ [b]).eraseDups = if b ∈ l then l.eraseDups else l.eraseDups ++ [b] := by
  rw [List.eraseDups_append]
  split
  · rename_i hb
    simp [List.removeAll, hb]
  · rename_i hb
    simp [List.removeAll, hb, List.eraseDups_cons]

end WebService
