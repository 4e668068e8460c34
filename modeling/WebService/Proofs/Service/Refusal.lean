import WebService.Proofs.Route.Lookup
import WebService.Proofs.Service.Dispatch

/-!
Refusals: the methods that they list are the ones that the path takes.
-/
namespace WebService.Application

open Route (Table)

variable {σ : Type} {app : Application σ} {state : σ} {request : Request} {allowed : List Method}

theorem header?_allow_methodNotAllowed :
    (Response.methodNotAllowed allowed).header? "Allow" =
      some (", ".intercalate (allowed.map (·.name))) :=
  Response.header?_setHeader_self

theorem dispatch_of_refused (hr : app.table.lookup request.method request.path app.strictSlashes =
      .methodNotAllowed allowed) (hp : app.cors = none ∨ request.method ≠ .options) :
    (app.dispatch state request).value =
      app.withPolicy (request.header? "origin") (Response.methodNotAllowed allowed) := by
  have hrefuse : app.refuse request allowed = Response.methodNotAllowed allowed := by
    rcases hp with hp | hp
    · simp [refuse, hp]
    · cases hc : app.cors <;> simp [refuse, hc, hp]
  simp [answer, hr, hrefuse]

/-- A path takes the methods that a refusal lists, `HEAD` besides if `GET` is among them, and no
others: these meet the same refusal, which tells the list as it is. -/
theorem refusal_lists_methods_served {α : Type} (t : Table α) (method : Method) (path : String)
    (strict : Bool) (allowed : List Method)
    (h : t.lookup method path strict = .methodNotAllowed allowed) :
    allowed.Nodup ∧
    (∀ m, (∃ entry vars, t.lookup m path strict = .route entry vars) ↔
      m ∈ allowed ∨ (m = .head ∧ .get ∈ allowed)) ∧
    (∀ m, ¬ (m ∈ allowed ∨ (m = .head ∧ .get ∈ allowed)) →
      t.lookup m path strict = .methodNotAllowed allowed) ∧
    ∀ (σ : Type) (app : Application σ) (state : σ) (request : Request),
      app.table.lookup request.method request.path app.strictSlashes = .methodNotAllowed allowed →
      app.cors = none ∨ request.method ≠ .options →
      (app.dispatch state request).value.status = 405 ∧
      (app.dispatch state request).value.header? "Allow" =
        some (", ".intercalate (allowed.map (·.name))) := by
  obtain ⟨-, hall, hne⟩ := Table.lookup_eq_methodNotAllowed_iff.mp h
  have hserves : ∀ m, Table.Serves t.entries m path strict ↔
      m ∈ allowed ∨ (m = .head ∧ .get ∈ allowed) := by
    intro m
    rw [Table.serves_iff_mem_gathered, hall]
  refine ⟨?_, ?_, ?_, ?_⟩
  · rw [← hall]
    exact Table.nodup_gathered List.nodup_nil
  · intro m
    rw [Table.lookup_isRoute_iff, hserves]
  · intro m hm
    exact Table.lookup_eq_methodNotAllowed_iff.mpr ⟨mt (hserves m).mp hm, hall, hne⟩
  · intro σ app state request hr hp
    have hagrees := app.withPolicy_agreesBut (request.header? "origin")
      (Response.methodNotAllowed allowed)
    rw [dispatch_of_refused hr hp, hagrees.status, hagrees.header? (by decide)]
    exact ⟨rfl, header?_allow_methodNotAllowed⟩

/-- Two routes that share `GET` and overlap on one path. -/
theorem refusal_lists_methods_served_of_two_routes :
    let answer : Handler Unit := .ofFunction fun _ => .ok Response.noContent
    let app : Application Unit := ⟨⟨[⟨[.get, .post], ⟨"/items", [.literal "items"], false⟩, answer⟩,
      ⟨[.put, .get], ⟨"/<name>", [.placeholder "name" .text], false⟩, answer⟩]⟩, false, false, 0,
      none, none⟩
    app.table.lookup .delete "/items" false = .methodNotAllowed [.get, .post, .put] ∧
      (∃ entry vars, app.table.lookup .head "/items" false = .route entry vars) ∧
      app.table.lookup .patch "/items" false = .methodNotAllowed [.get, .post, .put] ∧
      (app.dispatch () (Request.new .delete "/items")).value.header? "Allow" =
        some "GET, POST, PUT" := by
  intro answer app
  have hrefused : app.table.lookup .delete "/items" false = .methodNotAllowed [.get, .post, .put] :=
    rfl
  obtain ⟨_, hserved, hothers, hdispatch⟩ :=
    refusal_lists_methods_served app.table .delete "/items" false _ hrefused
  have hallow := hdispatch Unit app () (Request.new .delete "/items") rfl (Or.inl rfl)
  exact ⟨hrefused, (hserved .head).mpr (Or.inr ⟨rfl, by decide⟩), hothers .patch (by decide),
    hallow.2.trans (congrArg some rfl)⟩

end WebService.Application
