import Mathlib.Tactic.ByContra
import WebService.Route.Table

/-!
What a search for a route comes to: a route if one of those that fit the path accepts the method,
else the methods that these were added for, whatever the method asked for.
-/
namespace WebService.Route

variable {α : Type} {method m : Method} {path : String} {strict : Bool}
  {allowed methods : List Method}
  {entry : Entry α} {entries : List (Entry α)}

/-- Whether the pattern of a route fits a path. -/
def Entry.Fits (entry : Entry α) (path : String) (strict : Bool) : Prop :=
  ∃ vars, entry.pattern.match? path strict = some vars

theorem Entry.accepts_iff :
    entry.accepts method = true ↔
      method ∈ entry.methods ∨ (method = .head ∧ .get ∈ entry.methods) := by
  simp [Entry.accepts]

/-- Whether a search for a method stops at a route. -/
def Entry.serves (entry : Entry α) (method : Method) (path : String) (strict : Bool) : Bool :=
  (entry.pattern.match? path strict).isSome && entry.accepts method

theorem Entry.serves_iff : entry.serves method path strict = true ↔
    entry.Fits path strict ∧ entry.accepts method = true := by
  rw [serves, Bool.and_eq_true, Option.isSome_iff_exists, Fits]

namespace Table

/-! The list of methods -/

theorem mem_withMethod : m ∈ withMethod allowed method ↔ m ∈ allowed ∨ m = method := by
  unfold withMethod
  split
  · rename_i h
    have hm : method ∈ allowed := by simpa using h
    constructor
    · exact Or.inl
    · rintro (h | rfl)
      · exact h
      · exact hm
  · simp

theorem nodup_withMethod (h : allowed.Nodup) : (withMethod allowed method).Nodup := by
  unfold withMethod
  split
  · exact h
  · rename_i hc
    have hm : method ∉ allowed := by simpa using hc
    refine List.nodup_append.mpr ⟨h, by simp, ?_⟩
    intro a ha b hb he
    have hb : b = method := by simpa using hb
    exact hm (hb ▸ he ▸ ha)

theorem mem_foldl_withMethod :
    m ∈ methods.foldl withMethod allowed ↔ m ∈ allowed ∨ m ∈ methods := by
  induction methods generalizing allowed with
  | nil => simp
  | cons method rest ih =>
    rw [List.foldl_cons, ih, mem_withMethod, List.mem_cons, or_assoc]

theorem nodup_foldl_withMethod (h : allowed.Nodup) : (methods.foldl withMethod allowed).Nodup := by
  induction methods generalizing allowed with
  | nil => exact h
  | cons method rest ih => exact ih (nodup_withMethod h)

/-- The methods of the routes that fit a path behind those of `allowed`, as a search gathers them
that finds no route. -/
def gathered (path : String) (strict : Bool) (allowed : List Method) :
    List (Entry α) → List Method
  | [] => allowed
  | entry :: rest =>
    match entry.pattern.match? path strict with
    | none => gathered path strict allowed rest
    | some _ => gathered path strict (entry.methods.foldl withMethod allowed) rest

theorem mem_gathered :
    m ∈ gathered path strict allowed entries ↔
      m ∈ allowed ∨ ∃ entry ∈ entries, entry.Fits path strict ∧ m ∈ entry.methods := by
  induction entries generalizing allowed with
  | nil => simp [gathered]
  | cons entry rest ih =>
    cases hv : entry.pattern.match? path strict with
    | none => simp [gathered, hv, ih, Entry.Fits]
    | some vars => simp [gathered, hv, ih, Entry.Fits, mem_foldl_withMethod, or_assoc]

theorem nodup_gathered (h : allowed.Nodup) : (gathered path strict allowed entries).Nodup := by
  induction entries generalizing allowed with
  | nil => exact h
  | cons entry rest ih =>
    cases hv : entry.pattern.match? path strict with
    | none => simpa only [gathered, hv] using ih h
    | some vars => simpa only [gathered, hv] using ih (nodup_foldl_withMethod h)

/-! Searches -/

/-- Whether one of the routes fits a path and accepts a method. -/
def Serves (entries : List (Entry α)) (method : Method) (path : String) (strict : Bool) : Prop :=
  ∃ entry ∈ entries, entry.Fits path strict ∧ entry.accepts method = true

theorem serves_cons_of_none (h : entry.pattern.match? path strict = none) :
    Serves (entry :: entries) method path strict ↔ Serves entries method path strict := by
  simp [Serves, Entry.Fits, h]

theorem serves_cons_of_not_accepts (h : ¬ entry.accepts method = true) :
    Serves (entry :: entries) method path strict ↔ Serves entries method path strict := by
  simp [Serves, h]

/-- A search stops at the first route that fits the path and accepts the method. -/
theorem search_eq_route_iff {vars : Vars} :
    search method path strict allowed entries = .route entry vars ↔
      entries.find? (·.serves method path strict) = some entry ∧
        entry.pattern.match? path strict = some vars := by
  induction entries generalizing allowed with
  | nil =>
    constructor
    · intro h
      rw [search] at h
      split at h <;> cases h
    · rintro ⟨h, -⟩
      cases h
  | cons first rest ih =>
    cases hv : first.pattern.match? path strict with
    | none =>
      have hs : first.serves method path strict = false := by simp [Entry.serves, hv]
      rw [List.find?_cons, hs]
      simpa only [search, hv] using ih
    | some captured =>
      cases ha : first.accepts method with
      | false =>
        have hs : first.serves method path strict = false := by simp [Entry.serves, ha]
        rw [List.find?_cons, hs]
        simpa [search, hv, ha] using ih
      | true =>
        have hs : first.serves method path strict = true := by simp [Entry.serves, hv, ha]
        rw [List.find?_cons, hs]
        simp only [search, hv, ha, if_true, Found.route.injEq, Option.some.injEq]
        constructor
        · rintro ⟨rfl, rfl⟩
          exact ⟨rfl, hv⟩
        · rintro ⟨rfl, hvars⟩
          exact ⟨rfl, Option.some.inj (hv.symm.trans hvars)⟩

theorem serves_of_find? (h : entries.find? (·.serves method path strict) = some entry) :
    entry.Fits path strict ∧ entry.accepts method = true := by
  have hs : entry.serves method path strict = true :=
    List.find?_some (p := fun e : Entry α => e.serves method path strict) h
  exact Entry.serves_iff.mp hs

theorem search_of_serves (h : Serves entries method path strict) :
    ∃ entry vars, search method path strict allowed entries = .route entry vars := by
  obtain ⟨entry, hm, hserves⟩ := h
  have hsome : (entries.find? (·.serves method path strict)).isSome = true :=
    List.find?_isSome.mpr ⟨entry, hm, Entry.serves_iff.mpr hserves⟩
  obtain ⟨first, hfirst⟩ := Option.isSome_iff_exists.mp hsome
  obtain ⟨⟨captured, hcaptured⟩, -⟩ := serves_of_find? hfirst
  exact ⟨first, captured, search_eq_route_iff.mpr ⟨hfirst, hcaptured⟩⟩

theorem search_eq_route {vars : Vars}
    (h : search method path strict allowed entries = .route entry vars) :
    entry ∈ entries ∧ entry.pattern.match? path strict = some vars ∧
      entry.accepts method = true := by
  obtain ⟨hfirst, hv⟩ := search_eq_route_iff.mp h
  exact ⟨List.mem_of_find?_eq_some hfirst, hv, (serves_of_find? hfirst).2⟩

/-- A search that finds no route does not depend on the method. -/
theorem search_of_not_serves (h : ¬ Serves entries method path strict) :
    search method path strict allowed entries =
      if (gathered path strict allowed entries).isEmpty then .notFound
      else .methodNotAllowed (gathered path strict allowed entries) := by
  induction entries generalizing allowed with
  | nil => rfl
  | cons entry rest ih =>
    cases hv : entry.pattern.match? path strict with
    | none => simpa only [search, gathered, hv] using ih (mt (serves_cons_of_none hv).mpr h)
    | some vars =>
      have ha : ¬ entry.accepts method = true :=
        fun ha => h ⟨entry, List.mem_cons_self, ⟨vars, hv⟩, ha⟩
      simpa [search, gathered, hv, ha] using ih (mt (serves_cons_of_not_accepts ha).mpr h)

variable {t : Table α}

theorem lookup_isRoute_iff :
    (∃ entry vars, t.lookup method path strict = .route entry vars) ↔
      Serves t.entries method path strict := by
  constructor
  · rintro ⟨entry, vars, h⟩
    by_contra hn
    rw [lookup, search_of_not_serves hn] at h
    split at h <;> cases h
  · exact search_of_serves

theorem lookup_eq_methodNotAllowed_iff :
    t.lookup method path strict = .methodNotAllowed allowed ↔
      ¬ Serves t.entries method path strict ∧
        gathered path strict [] t.entries = allowed ∧ allowed ≠ [] := by
  constructor
  · intro h
    have hn : ¬ Serves t.entries method path strict := by
      rw [← lookup_isRoute_iff]
      rintro ⟨entry, vars, hr⟩
      rw [hr] at h
      cases h
    rw [lookup, search_of_not_serves hn] at h
    split at h
    · cases h
    · rename_i hne
      cases h
      exact ⟨hn, rfl, by simpa using hne⟩
  · rintro ⟨hn, rfl, hne⟩
    simp [lookup, search_of_not_serves hn, hne]

/-- The methods that a table serves on a path are those of the routes that fit it, and `HEAD` by
way of `GET`. -/
theorem serves_iff_mem_gathered :
    Serves t.entries m path strict ↔
      m ∈ gathered path strict [] t.entries ∨
        (m = .head ∧ .get ∈ gathered path strict [] t.entries) := by
  simp only [Serves, Entry.accepts_iff, mem_gathered, List.not_mem_nil, false_or]
  constructor
  · rintro ⟨entry, he, hf, hm | ⟨hh, hg⟩⟩
    · exact Or.inl ⟨entry, he, hf, hm⟩
    · exact Or.inr ⟨hh, entry, he, hf, hg⟩
  · rintro (⟨entry, he, hf, hm⟩ | ⟨hh, entry, he, hf, hg⟩)
    · exact ⟨entry, he, hf, Or.inl hm⟩
    · exact ⟨entry, he, hf, Or.inr ⟨hh, hg⟩⟩

end Table

end WebService.Route
