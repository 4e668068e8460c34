import Mathlib.Data.List.Induction
import WebService.Proofs.Lookup
import WebService.Proofs.Route.Lookup

/-!
The outcome of a look-up in full: the first route that fits the path and takes the method, else the
methods of all routes that fit.
-/
namespace WebService.Route

variable {α : Type} {method : Method} {path : String} {strict : Bool}
  {allowed methods : List Method}
  {entry : Entry α} {entries : List (Entry α)} {vars : Vars}

/-- Whether a route fits a path and is for a method, by name or as one for `GET` that takes
`HEAD`. -/
def Entry.Suits (entry : Entry α) (method : Method) (path : String) (strict : Bool) : Prop :=
  entry.Fits path strict ∧ (method ∈ entry.methods ∨ (method = .head ∧ .get ∈ entry.methods))

theorem Entry.serves_iff_suits :
    entry.serves method path strict = true ↔ entry.Suits method path strict := by
  rw [serves_iff, accepts_iff, Suits]

instance : Decidable (entry.Fits path strict) :=
  decidable_of_iff _ Option.isSome_iff_exists

instance : Decidable (entry.Suits method path strict) :=
  decidable_of_iff _ Entry.serves_iff_suits

namespace Table

theorem serves_iff_suits :
    Serves entries method path strict ↔ ∃ entry ∈ entries, entry.Suits method path strict := by
  simp only [Serves, Entry.accepts_iff, Entry.Suits]

/-! The methods of a refusal -/

theorem foldl_withMethod_nil (methods : List Method) :
    methods.foldl withMethod [] = methods.eraseDups := by
  -- From the end of the list, where the fold puts a method that is new.
  induction methods using List.reverseRecOn with
  | nil => rfl
  | append_singleton methods method ih =>
    rw [List.foldl_append, ih, eraseDups_concat]
    simp only [List.foldl_cons, List.foldl_nil, withMethod, List.contains_iff_mem,
      List.mem_eraseDups]

theorem gathered_eq_foldl : gathered path strict allowed entries =
    ((entries.filter fun entry => (entry.pattern.match? path strict).isSome).flatMap
      (·.methods)).foldl withMethod allowed := by
  induction entries generalizing allowed with
  | nil => rfl
  | cons entry rest ih =>
    cases hv : entry.pattern.match? path strict with
    | none => simp [gathered, hv, ih]
    | some vars => simp [gathered, hv, ih]

/-- The methods of the routes that fit a path, in the order of the routes, each where it comes
first. -/
def methodsFor (t : Table α) (path : String) (strict : Bool) : List Method :=
  ((t.entries.filter fun entry => (entry.pattern.match? path strict).isSome).flatMap
    (·.methods)).eraseDups

variable {t : Table α}

theorem gathered_eq_methodsFor : gathered path strict [] t.entries = t.methodsFor path strict := by
  rw [gathered_eq_foldl, foldl_withMethod_nil, methodsFor]

theorem lookup_of_not_suits (h : ∀ entry ∈ t.entries, ¬ entry.Suits method path strict) :
    t.lookup method path strict =
      if t.methodsFor path strict = [] then .notFound
      else .methodNotAllowed (t.methodsFor path strict) := by
  have hnone : ¬ Serves t.entries method path strict := by
    rw [serves_iff_suits]
    rintro ⟨entry, he, hs⟩
    exact h entry he hs
  rw [lookup, search_of_not_serves hnone, gathered_eq_methodsFor]
  simp only [List.isEmpty_iff]

/-- Nothing is found where all routes that fit the path are for no method at all. -/
theorem lookup_eq_notFound_iff : t.lookup method path strict = .notFound ↔
    ∀ entry ∈ t.entries, entry.Fits path strict → entry.methods = [] := by
  have hmem : ∀ m, m ∈ t.methodsFor path strict ↔
      ∃ entry ∈ t.entries, entry.Fits path strict ∧ m ∈ entry.methods := by
    intro m
    rw [← gathered_eq_methodsFor, mem_gathered]
    simp
  constructor
  · intro h entry he hfits
    have hnone : ∀ entry ∈ t.entries, ¬ entry.Suits method path strict := by
      intro other ho hs
      obtain ⟨first, vars, hfound⟩ := lookup_isRoute_iff.mpr (serves_iff_suits.mpr ⟨other, ho, hs⟩)
      cases h.symm.trans hfound
    rw [lookup_of_not_suits hnone] at h
    split at h
    · rename_i hempty
      rw [List.eq_nil_iff_forall_not_mem] at hempty ⊢
      exact fun m hm => hempty m ((hmem m).mpr ⟨entry, he, hfits, hm⟩)
    · cases h
  · intro h
    have hnone : ∀ entry ∈ t.entries, ¬ entry.Suits method path strict := by
      rintro entry he ⟨hfits, hm⟩
      simp [h entry he hfits] at hm
    have hempty : t.methodsFor path strict = [] := by
      rw [List.eq_nil_iff_forall_not_mem]
      intro m hm
      obtain ⟨entry, he, hfits, hm⟩ := (hmem m).mp hm
      simp [h entry he hfits] at hm
    rw [lookup_of_not_suits hnone, if_pos hempty]

/-! The first route -/

theorem find?_serves_eq_some_iff :
    entries.find? (·.serves method path strict) = some entry ↔
      ∃ i : Nat, entries[i]? = some entry ∧ entry.Suits method path strict ∧
        ∀ j < i, ∀ other, entries[j]? = some other → ¬ other.Suits method path strict := by
  rw [List.find?_eq_some_iff_getElem, Entry.serves_iff_suits]
  constructor
  · rintro ⟨hs, i, hi, rfl, hbefore⟩
    refine ⟨i, List.getElem?_eq_getElem hi, hs, ?_⟩
    intro j hj other hother
    obtain ⟨hlength, rfl⟩ := List.getElem?_eq_some_iff.mp hother
    have hnot := hbefore j hj
    rw [← Entry.serves_iff_suits]
    simpa using hnot
  · rintro ⟨i, hentry, hs, hbefore⟩
    obtain ⟨hi, rfl⟩ := List.getElem?_eq_some_iff.mp hentry
    refine ⟨hs, i, hi, rfl, ?_⟩
    intro j hj
    have hnot := hbefore j hj _ (List.getElem?_eq_getElem (by omega))
    rw [← Entry.serves_iff_suits] at hnot
    simpa using hnot

theorem lookup_eq_route_iff : t.lookup method path strict = .route entry vars ↔
    ∃ i : Nat, t.entries[i]? = some entry ∧ entry.Suits method path strict ∧
      (∀ j < i, ∀ other, t.entries[j]? = some other → ¬ other.Suits method path strict) ∧
      entry.pattern.match? path strict = some vars := by
  rw [lookup, search_eq_route_iff, find?_serves_eq_some_iff]
  constructor
  · rintro ⟨⟨i, hentry, hs, hbefore⟩, hvars⟩
    exact ⟨i, hentry, hs, hbefore, hvars⟩
  · rintro ⟨i, hentry, hs, hbefore, hvars⟩
    exact ⟨⟨i, hentry, hs, hbefore⟩, hvars⟩

/-- Routes behind the one that is found have no say. -/
theorem search_append (more : List (Entry α))
    (h : search method path strict allowed entries = .route entry vars) :
    search method path strict allowed (entries ++ more) = .route entry vars := by
  obtain ⟨hfirst, hvars⟩ := search_eq_route_iff.mp h
  exact search_eq_route_iff.mpr ⟨by rw [List.find?_append, hfirst, Option.some_or], hvars⟩

/-- A look-up finds the first route that suits, with what its pattern captures, whatever routes
stand behind it. Where there is none, it tells the methods of all routes that fit the path, and if
they have none, it finds nothing. -/
theorem lookup_outcome (t : Table α) (method : Method) (path : String) (strict : Bool) :
    (∀ entry vars, t.lookup method path strict = .route entry vars ↔
      ∃ i : Nat, t.entries[i]? = some entry ∧ entry.Suits method path strict ∧
        (∀ j < i, ∀ other, t.entries[j]? = some other → ¬ other.Suits method path strict) ∧
        entry.pattern.match? path strict = some vars) ∧
    ((∀ entry ∈ t.entries, ¬ entry.Suits method path strict) →
      t.lookup method path strict =
        if t.methodsFor path strict = [] then .notFound
        else .methodNotAllowed (t.methodsFor path strict)) ∧
    ∀ (more : List (Entry α)) entry vars, t.lookup method path strict = .route entry vars →
      (⟨t.entries ++ more⟩ : Table α).lookup method path strict = .route entry vars := by
  refine ⟨?_, ?_, ?_⟩
  · intro entry vars
    exact lookup_eq_route_iff
  · exact lookup_of_not_suits
  · intro more entry vars h
    exact search_append more h

/-- Of three routes that fit a path the second is found, and for another method all three tell
theirs. -/
theorem lookup_outcome_of_three :
    let item : Entry String :=
      ⟨[.get], ⟨"/items/<int:id>", [.literal "items", .placeholder "id" .integer], false⟩, "item"⟩
    let change : Entry String := ⟨[.put, .delete],
      ⟨"/items/<int:id>", [.literal "items", .placeholder "id" .integer], false⟩, "change"⟩
    let named : Entry String := ⟨[.post, .put],
      ⟨"/items/<name>", [.literal "items", .placeholder "name" .text], false⟩, "named"⟩
    (⟨[item, change] ++ [named]⟩ : Table String).lookup .put "/items/5" false =
        .route change [("id", .integer 5)] ∧
      (⟨[item, change, named]⟩ : Table String).lookup .patch "/items/5" false =
        .methodNotAllowed [.get, .put, .delete, .post] := by
  intro item change named
  obtain ⟨hroute, -, hmore⟩ := lookup_outcome ⟨[item, change]⟩ .put "/items/5" false
  obtain ⟨-, hrefused, -⟩ := lookup_outcome ⟨[item, change, named]⟩ .patch "/items/5" false
  have hfirst : ∀ j < 1, ∀ other, [item, change][j]? = some other →
      ¬ other.Suits .put "/items/5" false := by
    intro j hj other hother
    obtain rfl : j = 0 := by omega
    cases hother
    decide
  have hfound := (hroute change [("id", .integer 5)]).mpr ⟨1, rfl, by decide, hfirst, by decide⟩
  exact ⟨hmore [named] _ _ hfound, (hrefused (by decide)).trans rfl⟩

end Table

end WebService.Route
