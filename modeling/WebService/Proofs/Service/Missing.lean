import WebService.Proofs.Route.First
import WebService.Proofs.Service.Boundary
import WebService.Proofs.Service.Refusal
import WebService.Proofs.Service.Registration

/-!
Requests that no handler gets: the answer that there is no service, and refusals. Which of them is
sent depends on the methods of the routes that fit the path, so that a resource which allows none
is missing.
-/
namespace WebService.Application

open Route (Entry Pattern Table)

variable {σ : Type} {app : Application σ} {state : σ} {request : Request} {allowed : List Method}
  {turn : Turn σ (Outcome Response)}

/-- Whether a request reaches no handler and is told that there is no service. -/
def Misses (app : Application σ) (state : σ) (request : Request) : Prop :=
  (∀ turn, ¬ app.Reaches state request turn) ∧
    (app.dispatch state request).value = app.withPolicy (request.header? "origin")
      (Response.notFound ("Service not found: " ++ request.path ++ "."))

/-- Whether a request reaches no handler and is told the methods that would, or gets what a policy
answers in their place. -/
structure Refuses (app : Application σ) (state : σ) (request : Request) (allowed : List Method) :
    Prop where
  unhandled : ∀ turn, ¬ app.Reaches state request turn
  preflight : ∀ cors, app.cors = some cors → request.method = .options →
    (app.dispatch state request).value =
        app.withPolicy (request.header? "origin") cors.preflight ∧
      (app.dispatch state request).value.status = 204
  refusal : app.cors = none ∨ request.method ≠ .options →
    (app.dispatch state request).value =
        app.withPolicy (request.header? "origin") (Response.methodNotAllowed allowed) ∧
      (app.dispatch state request).value.status = 405

theorem not_reaches_of_lookup (h : ∀ entry vars,
      app.table.lookup request.method request.path app.strictSlashes ≠ .route entry vars) :
    ¬ app.Reaches state request turn := by
  rintro ⟨entry, vars, hfound, -⟩
  exact h entry vars hfound

theorem refuses_of_lookup (h : app.table.lookup request.method request.path app.strictSlashes =
      .methodNotAllowed allowed) : app.Refuses state request allowed where
  unhandled turn := not_reaches_of_lookup fun entry vars hfound => by
    cases h.symm.trans hfound
  preflight cors hcors hmethod := by
    have hanswer : (app.answer state request).value = cors.preflight := by
      rw [answer_of_isPreflight ⟨hmethod, h⟩, hcors]
    rw [dispatch_value, hanswer]
    exact ⟨rfl, (withPolicy_agreesBut _ _ _).status⟩
  refusal hplain := by
    rw [dispatch_of_refused h hplain]
    exact ⟨rfl, (withPolicy_agreesBut _ _ _).status⟩

theorem Refuses.status_ne (h : app.Refuses state request allowed) :
    (app.dispatch state request).value.status ≠ 404 := by
  by_cases hplain : app.cors = none ∨ request.method ≠ .options
  · rw [(h.refusal hplain).2]
    decide
  · rw [not_or, not_not] at hplain
    obtain ⟨hsome, hmethod⟩ := hplain
    obtain ⟨cors, hcors⟩ := Option.ne_none_iff_exists'.mp hsome
    rw [(h.preflight cors hcors hmethod).2]
    decide

theorem misses_iff_lookup : app.Misses state request ↔
    app.table.lookup request.method request.path app.strictSlashes = .notFound := by
  constructor
  · rintro ⟨hunhandled, hvalue⟩
    -- A refusal is told apart by its status, which a policy does not change.
    cases hl : app.table.lookup request.method request.path app.strictSlashes with
    | route entry vars => exact absurd ⟨entry, vars, hl, rfl⟩ (hunhandled _)
    | methodNotAllowed allowed =>
      have hstatus : (app.dispatch state request).value.status = 404 := by
        rw [hvalue]
        exact (withPolicy_agreesBut _ _ _).status
      exact absurd hstatus (refuses_of_lookup hl).status_ne
    | notFound => rfl
  · intro h
    refine ⟨fun turn => not_reaches_of_lookup fun entry vars hfound => ?_, ?_⟩
    · cases h.symm.trans hfound
    · simp only [dispatch_value, answer, h]

/-- A request that no route suits is refused if one that has methods fits its path. -/
theorem refuses_of_fits
    (hfits : ∃ entry ∈ app.table.entries, entry.Fits request.path app.strictSlashes ∧
      entry.methods ≠ [])
    (hnone : ∀ entry ∈ app.table.entries,
      ¬ entry.Suits request.method request.path app.strictSlashes) :
    app.Refuses state request (app.table.methodsFor request.path app.strictSlashes) := by
  have hl := Table.lookup_of_not_suits hnone
  split at hl
  · obtain ⟨entry, he, hf, hm⟩ := hfits
    exact absurd (Table.lookup_eq_notFound_iff.mp hl entry he hf) hm
  · exact refuses_of_lookup hl

/-- There is no service for a request exactly if every route that fits its path is for no method,
which only the route of a resource can be that allows none; without such resources, exactly if no
pattern fits. Where a route with methods fits and none suits, the request is refused, or answered as
a preflight. -/
theorem missing_iff_no_methods (settings : Settings.App) (format : Option String)
    (calls : List (Registration σ)) (state : σ) (request : Request) :
    let app := ((Application.new settings).withAccessLog format).registerAll calls
    let routes := calls.flatMap Registration.entries
    app.table.entries = routes ∧
    (∀ entry ∈ routes, entry.methods = [] → ∃ pattern resource,
      .resource pattern resource ∈ calls ∧ resource.allowed = [] ∧
        Pattern.parse pattern = .ok entry.pattern) ∧
    (app.Misses state request ↔
      ∀ entry ∈ routes, entry.Fits request.path settings.strictSlashes → entry.methods = []) ∧
    ((∀ pattern resource, .resource pattern resource ∈ calls → resource.allowed ≠ []) →
      (app.Misses state request ↔
        ∀ entry ∈ routes, ¬ entry.Fits request.path settings.strictSlashes)) ∧
    ((∃ entry ∈ routes, entry.Fits request.path settings.strictSlashes ∧ entry.methods ≠ []) →
      (∀ entry ∈ routes, ¬ entry.Suits request.method request.path settings.strictSlashes) →
      app.Refuses state request (app.table.methodsFor request.path settings.strictSlashes)) := by
  intro app routes
  have happ : app = ((Application.new settings).withAccessLog format).withEntries routes :=
    registerAll_eq calls
  have hroutes : app.table.entries = routes := by rw [happ]; rfl
  have hstrict : app.strictSlashes = settings.strictSlashes := by rw [happ]; rfl
  have hmisses : app.Misses state request ↔
      ∀ entry ∈ routes, entry.Fits request.path settings.strictSlashes → entry.methods = [] := by
    rw [misses_iff_lookup, Table.lookup_eq_notFound_iff, hroutes, hstrict]
  refine ⟨hroutes, fun _ => Registration.exists_resource_of_mem_flatMap, hmisses, ?_, ?_⟩
  · intro hallow
    rw [hmisses]
    refine forall₂_congr fun entry he => ⟨?_, fun h hf => absurd hf h⟩
    intro h hf
    obtain ⟨pattern, r, hcall, hallowed, -⟩ :=
      Registration.exists_resource_of_mem_flatMap he (h hf)
    exact hallow pattern r hcall hallowed
  · intro hfits hnone
    rw [← hstrict]
    rw [← hstrict, ← hroutes] at hfits hnone
    exact refuses_of_fits hfits hnone

/-- A list of routes whose second names no method, and a resource for `PUT`. -/
theorem missing_iff_no_methods_of_put :
    let handler : Handler Unit := .ofFunction fun _ => .ok Response.noContent
    let calls : List (Registration Unit) :=
      [.routes [("GET", "/a", handler), ("", "/b", handler), ("GET", "/c", handler)],
        .resource "/<name>/edit" { allowed := [.put] }]
    let app := ((Application.new {}).withAccessLog none).registerAll calls
    app.table.entries.length = 2 ∧ app.Misses () (Request.new .get "/c") ∧
      app.Refuses () (Request.new .get "/a/edit") [.put] := by
  intro handler calls app
  have hallow : ∀ pattern resource, .resource pattern resource ∈ calls → resource.allowed ≠ [] := by
    intro pattern resource hmem
    simp only [calls, List.mem_cons, reduceCtorEq, Registration.resource.injEq, List.not_mem_nil,
      or_false, false_or] at hmem
    obtain ⟨-, rfl⟩ := hmem
    decide
  obtain ⟨hroutes, -, -, hmissing, -⟩ :=
    missing_iff_no_methods {} none calls () (Request.new .get "/c")
  obtain ⟨-, -, -, -, hrefused⟩ :=
    missing_iff_no_methods {} none calls () (Request.new .get "/a/edit")
  refine ⟨by rw [hroutes]; rfl, (hmissing hallow).mpr (by decide), ?_⟩
  exact hrefused (by decide) (by decide)

/-- The route of a resource that allows no method fits its paths, and still they are missing. -/
theorem resource_without_methods_is_missing :
    let resource : Resource Unit :=
      { allowed := [], get := some (.ofFunction fun _ => .ok Response.noContent) }
    ∃ app, (Application.new {}).resource "/x" resource = .ok app ∧
      (∃ entry ∈ app.table.entries, entry.Fits "/x" app.strictSlashes) ∧
      app.Misses () (Request.new .get "/x") := by
  intro resource
  refine ⟨_, rfl, ⟨_, List.mem_singleton_self _, [], rfl⟩, ?_⟩
  exact misses_iff_lookup.mpr rfl

end WebService.Application
