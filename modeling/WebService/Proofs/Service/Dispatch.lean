import WebService.Proofs.Cors.Grant
import WebService.Service.Application

/-!
Dispatching a request: the answer of the routes with the headers of the policy. A policy changes
nothing else, save where it answers `OPTIONS` in place of a refusal.
-/
namespace WebService.Application

open Response (AgreesBut)

variable {σ : Type} {app : Application σ} {state : σ} {request : Request} {response : Response}

/-! The policy -/

/-- The response with the headers for a sender, if the application has a policy. -/
def withPolicy (app : Application σ) (sender : Option String) (response : Response) : Response :=
  match app.cors with
  | none => response
  | some cors => (cors.apply sender response).2

theorem withPolicy_agreesBut (app : Application σ) (sender : Option String) (response : Response) :
    (app.withPolicy sender response).AgreesBut Cors.headerNames response := by
  unfold withPolicy
  split
  · exact AgreesBut.refl _ response
  · exact Cors.apply_agreesBut _ sender response

theorem share_fst :
    (app.share request response).1 = app.withPolicy (request.header? "origin") response := by
  cases hc : app.cors with
  | none => simp [share, withPolicy, hc]
  | some cors =>
    rcases ha : cors.apply (request.header? "origin") response with ⟨verdict, shared⟩
    cases verdict <;> simp [share, withPolicy, hc, ha]

/-- All that is logged of a policy is for debugging. -/
theorem mem_share_snd {message : Log.Message} (h : message ∈ (app.share request response).2) :
    ∃ text, message = .debug text := by
  cases hc : app.cors with
  | none => simp [share, hc] at h
  | some cors =>
    rcases ha : cors.apply (request.header? "origin") response with ⟨verdict, shared⟩
    cases verdict with
    | applied => simp [share, hc, ha] at h
    | noOrigin => simp [share, hc, ha] at h
    | unauthorized origin => exact ⟨_, by simpa [share, hc, ha] using h⟩

/-! The answer -/

@[simp] theorem dispatch_value : (app.dispatch state request).value =
    app.withPolicy (request.header? "origin") (app.answer state request).value := share_fst

@[simp] theorem dispatch_state :
    (app.dispatch state request).state = (app.answer state request).state := rfl

theorem dispatch_log : (app.dispatch state request).log =
    (app.answer state request).log ++ (app.share request (app.answer state request).value).2 := rfl

/-- Whether a request asks by `OPTIONS` for a path that takes none but the methods `allowed`. -/
def IsPreflight (app : Application σ) (request : Request) (allowed : List Method) : Prop :=
  request.method = .options ∧
    app.table.lookup request.method request.path app.strictSlashes = .methodNotAllowed allowed

/-- The application with another policy, or without any. -/
def withCors (app : Application σ) (cors : Option Cors) : Application σ := { app with cors := cors }

theorem answer_withCors_state (cors : Option Cors) :
    ((app.withCors cors).answer state request).state = (app.answer state request).state := by
  simp only [answer, withCors]
  cases app.table.lookup request.method request.path app.strictSlashes with
  | route entry vars => rfl
  | methodNotAllowed allowed => rfl
  | notFound => rfl

/-- Refusals of `OPTIONS` are the only answers in which a policy has a say. -/
theorem answer_withCors_value (cors : Option Cors)
    (h : ∀ allowed, ¬ app.IsPreflight request allowed) :
    ((app.withCors cors).answer state request).value = (app.answer state request).value := by
  simp only [answer, withCors]
  cases hl : app.table.lookup request.method request.path app.strictSlashes with
  | route entry vars => rfl
  | methodNotAllowed allowed =>
    have hm : request.method ≠ .options := fun hm => h allowed ⟨hm, hl⟩
    have hrefuse : ∀ a : Application σ,
        a.refuse request allowed = Response.methodNotAllowed allowed := by
      intro a
      cases hc : a.cors <;> simp [refuse, hc, hm]
    exact (hrefuse _).trans (hrefuse _).symm
  | notFound => rfl

theorem answer_of_isPreflight {allowed : List Method} (h : app.IsPreflight request allowed) :
    (app.answer state request).value =
      match app.cors with
      | some cors => cors.preflight
      | none => Response.methodNotAllowed allowed := by
  unfold answer
  rw [h.2]
  cases hc : app.cors <;> simp [refuse, h.1, hc]

/-- A policy adds headers for the origins that it lets in and answers `OPTIONS` where the path
takes other methods; all else is as without it. -/
theorem dispatch_under_policy (app : Application σ) (policy : Cors) (state : σ)
    (request : Request) :
    let bare := (app.withCors none).dispatch state request
    let shared := (app.withCors (some policy)).dispatch state request
    shared.state = bare.state ∧
    ((∀ allowed, ¬ app.IsPreflight request allowed) →
      shared.value.AgreesBut Cors.headerNames bare.value ∧
      (¬ policy.Admits (request.header? "origin") → shared.value = bare.value)) ∧
    ∀ allowed, app.IsPreflight request allowed →
      shared.value.status = 204 ∧ shared.value.body = [] ∧ shared.value.contentType = "" ∧
      shared.value.header? "Content-Type" = none ∧
      shared.value.header? "Access-Control-Max-Age" = some (toString policy.maxAge) ∧
      bare.value = Response.methodNotAllowed allowed ∧ bare.value.status = 405 := by
  intro bare shared
  have hshared : shared.value = (policy.apply (request.header? "origin")
      ((app.withCors (some policy)).answer state request).value).2 := dispatch_value
  have hbare : bare.value = ((app.withCors none).answer state request).value := dispatch_value
  refine ⟨?_, ?_, ?_⟩
  · exact (answer_withCors_state (some policy)).trans (answer_withCors_state none).symm
  · intro h
    rw [hshared, hbare, answer_withCors_value (some policy) h, answer_withCors_value none h]
    exact ⟨Cors.apply_agreesBut _ _ _, Cors.apply_of_not_admits⟩
  · intro allowed h
    have hpre : ((app.withCors (some policy)).answer state request).value = policy.preflight :=
      answer_of_isPreflight h
    have hrefused : bare.value = Response.methodNotAllowed allowed :=
      hbare.trans (answer_of_isPreflight h)
    have hagrees := Cors.apply_agreesBut policy (request.header? "origin") policy.preflight
    rw [hshared, hpre]
    refine ⟨hagrees.status, hagrees.body, hagrees.contentType, ?_, ?_, hrefused, ?_⟩
    · rw [hagrees.header? (by decide)]
      rfl
    · rw [hagrees.header? (by decide)]
      exact Response.header?_setHeader_self
    · rw [hrefused]
      rfl

/-- An origin that is not let in gets the answers of routes as they are, but `OPTIONS` is answered
in place of the refusal. -/
theorem dispatch_under_policy_of_stranger :
    let app : Application Unit := ⟨⟨[⟨[.get], ⟨"/items", [.literal "items"], false⟩,
      .ofFunction fun _ => .ok Response.noContent⟩]⟩, false, false, 0, none, none⟩
    let policy : Cors := { Cors.permissive with origins := .only ["https://a.example"] }
    let asked (method : Method) : Request :=
      { Request.new method "/items" with fields := [("origin", "https://b.example")] }
    let bare (method : Method) := (app.withCors none).dispatch () (asked method)
    let shared (method : Method) := (app.withCors (some policy)).dispatch () (asked method)
    ¬ policy.Admits ((asked .get).header? "origin") ∧ (shared .get).value = (bare .get).value ∧
      app.IsPreflight (asked .options) [.get] ∧
      (shared .options).value.header? "Access-Control-Max-Age" = some "86400" ∧
      (bare .options).value = Response.methodNotAllowed [.get] := by
  intro app policy asked bare shared
  have hstranger : ¬ policy.Admits ((asked .get).header? "origin") := by
    rintro ⟨origin, ho, _, ha⟩
    have ho : some "https://b.example" = some origin := ho
    cases ho
    have hmem : "https://b.example" ∈ ["https://a.example"] := ha
    simp at hmem
  have hfound : ∀ allowed, ¬ app.IsPreflight (asked .get) allowed := by
    rintro allowed ⟨hm, _⟩
    exact absurd hm (by decide)
  have hrefusal : app.table.lookup .options "/items" false = .methodNotAllowed [.get] := rfl
  have hpreflight : app.IsPreflight (asked .options) [.get] := ⟨rfl, hrefusal⟩
  have hseconds : toString policy.maxAge = "86400" := by decide
  obtain ⟨_, hget, _⟩ := dispatch_under_policy app policy () (asked .get)
  obtain ⟨_, _, hoptions⟩ := dispatch_under_policy app policy () (asked .options)
  obtain ⟨_, _, _, _, hage, hrefused, _⟩ := hoptions [.get] hpreflight
  exact ⟨hstranger, (hget hfound).2 hstranger, hpreflight,
    hage.trans (congrArg some hseconds), hrefused⟩

end WebService.Application
