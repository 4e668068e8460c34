import WebService.Proofs.Method
import WebService.Service.Application

/-!
Calls that add routes to an application, one after another. The table holds just the routes that
the calls stand for, in their order; only a resource can bring a route for no method.
-/
namespace WebService

open Route (Entry Pattern Table)

variable {σ : Type}

/-- A call that adds routes to an application. -/
inductive Registration (σ : Type) where
  | route (methods pattern : String) (handler : Handler σ)
  | routes (list : List (String × String × Handler σ))
  | resource (pattern : String) (resource : Resource σ)

namespace Registration

/-- The route for methods and a pattern given as texts, if both can be read. -/
def routeFor? : String × String × Handler σ → Option (Entry (Handler σ))
  | (methods, pattern, handler) =>
    match Method.parseList methods, Pattern.parse pattern with
    | .ok methods, .ok pattern => some ⟨methods, pattern, handler⟩
    | _, _ => none

/-- The routes that a call adds: none if it is refused, and of a list those before the first that
is. -/
def entries : Registration σ → List (Entry (Handler σ))
  | .route methods pattern handler => (routeFor? (methods, pattern, handler)).toList
  | .routes list => ((list.map routeFor?).takeWhile Option.isSome).filterMap id
  | .resource pattern r =>
    match Pattern.parse pattern with
    | .ok pattern => [⟨r.allowed, pattern, r.handle⟩]
    | .error _ => []

theorem methods_ne_nil_of_routeFor? {item : String × String × Handler σ}
    {entry : Entry (Handler σ)} (h : routeFor? item = some entry) : entry.methods ≠ [] := by
  obtain ⟨methods, pattern, handler⟩ := item
  simp only [routeFor?] at h
  split at h
  · rename_i hmethods _
    cases h
    exact (Method.parseList_eq_ok_iff.mp hmethods).1
  · cases h

/-- A route for no method is that of a resource which allows none. -/
theorem exists_resource_of_mem_entries {call : Registration σ} {entry : Entry (Handler σ)}
    (h : entry ∈ call.entries) (hnone : entry.methods = []) :
    ∃ pattern r, call = .resource pattern r ∧ r.allowed = [] ∧
      Pattern.parse pattern = .ok entry.pattern := by
  cases call with
  | route methods pattern handler =>
    exact absurd hnone (methods_ne_nil_of_routeFor? (Option.mem_toList.mp h))
  | routes list =>
    obtain ⟨item?, hmem, hitem⟩ := List.mem_filterMap.mp h
    obtain ⟨item, -, hread⟩ := List.mem_map.mp ((List.takeWhile_sublist _).mem hmem)
    exact absurd hnone (methods_ne_nil_of_routeFor? (hread.trans hitem))
  | resource pattern r =>
    simp only [entries] at h
    split at h
    · rename_i hpattern
      obtain rfl := List.mem_singleton.mp h
      exact ⟨pattern, r, rfl, hnone, hpattern⟩
    · cases h

theorem exists_resource_of_mem_flatMap {calls : List (Registration σ)} {entry : Entry (Handler σ)}
    (h : entry ∈ calls.flatMap entries) (hnone : entry.methods = []) :
    ∃ pattern r, .resource pattern r ∈ calls ∧ r.allowed = [] ∧
      Pattern.parse pattern = .ok entry.pattern := by
  obtain ⟨call, hcall, h⟩ := List.mem_flatMap.mp h
  obtain ⟨pattern, r, rfl, hallowed, hpattern⟩ := exists_resource_of_mem_entries h hnone
  exact ⟨pattern, r, hcall, hallowed, hpattern⟩

end Registration

namespace Application

variable {app : Application σ}

/-- The application after a call. One that is refused changes nothing, save that the routes of a
list before the first that is refused stay. -/
def register (app : Application σ) : Registration σ → Application σ
  | .route methods pattern handler => (app.route methods pattern handler).toOption.getD app
  | .routes list => (app.addRoutes list).1
  | .resource pattern r => (app.resource pattern r).toOption.getD app

/-- The application after one call and another. -/
def registerAll (app : Application σ) (calls : List (Registration σ)) : Application σ :=
  calls.foldl register app

/-- The application with routes behind its own. -/
def withEntries (app : Application σ) (entries : List (Entry (Handler σ))) : Application σ :=
  { app with table := ⟨app.table.entries ++ entries⟩ }

theorem withEntries_nil : app.withEntries [] = app := by
  rw [withEntries, List.append_nil]

theorem withEntries_append (first second : List (Entry (Handler σ))) :
    (app.withEntries first).withEntries second = app.withEntries (first ++ second) := by
  simp only [withEntries, List.append_assoc]

theorem route_toOption (methods pattern : String) (handler : Handler σ) :
    (app.route methods pattern handler).toOption =
      (Registration.routeFor? (methods, pattern, handler)).map
        fun entry => app.withEntries [entry] := by
  cases hm : Method.parseList methods with
  | error text =>
    simp only [route, Table.add, Registration.routeFor?, hm]
    rfl
  | ok list =>
    cases hp : Pattern.parse pattern with
    | error e =>
      simp only [route, Table.add, Table.addWith, Registration.routeFor?, hm, hp]
      rfl
    | ok p =>
      simp only [route, Table.add, Table.addWith, Registration.routeFor?, hm, hp]
      rfl

theorem addRoutes_fst (list : List (String × String × Handler σ)) :
    (app.addRoutes list).1 = app.withEntries
      (((list.map Registration.routeFor?).takeWhile Option.isSome).filterMap id) := by
  induction list generalizing app with
  | nil => exact withEntries_nil.symm
  | cons item rest ih =>
    obtain ⟨methods, pattern, handler⟩ := item
    have hroute := app.route_toOption methods pattern handler
    cases he : Registration.routeFor? (methods, pattern, handler) with
    | none =>
      cases hr : app.route methods pattern handler with
      | ok next => simp [hr, he, Except.toOption] at hroute
      | error e => simp [addRoutes, hr, he, withEntries_nil]
    | some entry =>
      cases hr : app.route methods pattern handler with
      | ok next =>
        have hnext : next = app.withEntries [entry] := by
          simpa [hr, he, Except.toOption] using hroute
        simp [addRoutes, hr, he, hnext, ih, withEntries_append]
      | error e => simp [hr, he, Except.toOption] at hroute

theorem register_eq (call : Registration σ) : app.register call = app.withEntries call.entries := by
  cases call with
  | route methods pattern handler =>
    rw [register, route_toOption, Registration.entries]
    cases Registration.routeFor? (methods, pattern, handler) with
    | none => exact withEntries_nil.symm
    | some entry => rfl
  | routes list => exact addRoutes_fst list
  | resource pattern r =>
    cases hp : Pattern.parse pattern with
    | error e =>
      simp [register, Application.resource, Table.addWith, Registration.entries, hp,
        withEntries_nil]
      rfl
    | ok p =>
      simp [register, Application.resource, Table.addWith, Registration.entries, hp]
      rfl

/-- A run of calls adds the routes of each, and nothing else changes. -/
theorem registerAll_eq (calls : List (Registration σ)) :
    app.registerAll calls = app.withEntries (calls.flatMap Registration.entries) := by
  induction calls generalizing app with
  | nil => exact withEntries_nil.symm
  | cons call rest ih =>
    have hrest : app.registerAll (call :: rest) = (app.register call).registerAll rest := rfl
    rw [hrest, ih, register_eq, withEntries_append, List.flatMap_cons]

end Application

end WebService
