import WebService.Proofs.Service.Dispatch

/-!
The boundary at which handlers fail: what they answer goes out, what breaks them is logged once and
told to the client only while debugging, then with every cause.
-/
namespace WebService

/-- The lines of the causes, the first of which has the number `index`. -/
theorem Failure.causeLines_eq (index : Nat) (causes : List String) :
    causeLines index causes = String.join ((causes.zipIdx index).map fun (cause, i) =>
      "\n    " ++ toString i ++ ": " ++ cause) := by
  induction causes generalizing index with
  | nil => rfl
  | cons cause rest ih => rw [causeLines, ih, List.zipIdx_cons, List.map_cons, String.join_cons]

theorem Failure.describe_eq (f : Failure) :
    f.describe = f.message ++ ((if f.causes = [] then "" else "\n\nCaused by:") ++
      String.join (f.causes.zipIdx.map fun (cause, i) =>
        "\n    " ++ toString i ++ ": " ++ cause)) := by
  cases hc : f.causes with
  | nil => simp [describe, hc]
  | cons cause rest => simp [describe, hc, causeLines_eq, String.append_assoc]

/-- The messages that go to the error log. -/
def Log.errors (log : List Log.Message) : List Log.Message :=
  log.filter fun message => message.target = .error

namespace Outcome

/-- Whether a handler has come to a response, as its result or by an abort. -/
def Responds (outcome : Outcome Response) (response : Response) : Prop :=
  outcome = .ok response ∨ outcome = .error (.abort response)

/-- Whether a handler has broken off with a failure, which a panic comes down to as well. -/
def Fails (outcome : Outcome Response) (failure : Failure) : Prop :=
  outcome = .error (.failure failure) ∨
    ∃ message, outcome = .error (.panic message) ∧ failure = Application.panicFailure message

end Outcome

namespace Application

variable {σ : Type} {app : Application σ} {state : σ} {request : Request} {response : Response}
  {failure : Failure} {turn : Turn σ (Outcome Response)}

/-- Whether a request reaches a handler that makes `turn` of it. -/
def Reaches (app : Application σ) (state : σ) (request : Request)
    (turn : Turn σ (Outcome Response)) : Prop :=
  ∃ entry vars, app.table.lookup request.method request.path app.strictSlashes = .route entry vars ∧
    entry.target state { request with vars := vars } = turn

theorem errors_share : Log.errors (app.share request response).2 = [] := by
  rw [Log.errors, List.filter_eq_nil_iff]
  intro message hm
  obtain ⟨text, rfl⟩ := mem_share_snd hm
  simp [Log.Message.target]

theorem settle_of_responds (h : turn.value.Responds response) :
    app.settle request turn = ⟨response, turn.state, turn.log⟩ := by
  rcases h with h | h <;> simp [settle, h]

theorem settle_of_fails (h : turn.value.Fails failure) :
    app.settle request turn = ⟨Response.internalServerError failure app.debug, turn.state,
      turn.log ++ [.error (request.method.name ++ " " ++ request.path ++ " failed: " ++
        failure.message)]⟩ := by
  rcases h with h | ⟨message, h, rfl⟩ <;> simp [settle, fail, h]

theorem answer_of_reaches (h : app.Reaches state request turn) :
    app.answer state request = app.settle request turn := by
  obtain ⟨entry, vars, hl, rfl⟩ := h
  simp only [answer, hl]
  rfl

theorem dispatch_of_responds (h : app.Reaches state request turn)
    (hr : turn.value.Responds response) :
    (app.dispatch state request).value = app.withPolicy (request.header? "origin") response ∧
      (app.dispatch state request).state = turn.state ∧
      Log.errors (app.dispatch state request).log = Log.errors turn.log := by
  have ha : app.answer state request = ⟨response, turn.state, turn.log⟩ :=
    (answer_of_reaches h).trans (settle_of_responds hr)
  refine ⟨by rw [dispatch_value, ha], by rw [dispatch_state, ha], ?_⟩
  rw [dispatch_log, ha, Log.errors, List.filter_append]
  exact (congrArg _ errors_share).trans (List.append_nil _)

theorem dispatch_of_fails (h : app.Reaches state request turn) (hf : turn.value.Fails failure) :
    (app.dispatch state request).value = app.withPolicy (request.header? "origin")
        (Response.internalServerError failure app.debug) ∧
      (app.dispatch state request).state = turn.state ∧
      Log.errors (app.dispatch state request).log = Log.errors turn.log ++
        [.error (request.method.name ++ " " ++ request.path ++ " failed: " ++
          failure.message)] := by
  have ha := (answer_of_reaches h).trans (settle_of_fails hf)
  refine ⟨by rw [dispatch_value, ha], by rw [dispatch_state, ha], ?_⟩
  rw [dispatch_log, ha, Log.errors, List.filter_append, List.filter_append]
  exact (congrArg _ errors_share).trans (List.append_nil _)

/-- A response that a handler comes to is sent with nothing but the headers of the policy added,
and without an error being logged. A failure is logged once and answered with status 500, with all
its causes while debugging; else nothing of it can be told from the answer. -/
theorem dispatch_error_boundary (app : Application σ) (state : σ) (request : Request)
    (turn : Turn σ (Outcome Response)) (h : app.Reaches state request turn) :
    (∀ response, turn.value.Responds response →
      (app.dispatch state request).value = app.withPolicy (request.header? "origin") response ∧
      (app.dispatch state request).value.AgreesBut Cors.headerNames response ∧
      (app.dispatch state request).state = turn.state ∧
      Log.errors (app.dispatch state request).log = Log.errors turn.log) ∧
    ∀ failure, turn.value.Fails failure →
      (app.dispatch state request).value.kind = .internalServerError ∧
      (app.dispatch state request).value.status = 500 ∧
      (app.dispatch state request).state = turn.state ∧
      Log.errors (app.dispatch state request).log = Log.errors turn.log ++
        [.error (request.method.name ++ " " ++ request.path ++ " failed: " ++ failure.message)] ∧
      (app.debug = true → (app.dispatch state request).value.body = Text.octets (failure.message ++
        ((if failure.causes = [] then "" else "\n\nCaused by:") ++
          String.join (failure.causes.zipIdx.map fun (cause, i) =>
            "\n    " ++ toString i ++ ": " ++ cause)))) ∧
      (app.debug = false → ∀ (τ : Type) (other : Application τ) (state' : τ)
        (turn' : Turn τ (Outcome Response)) (failure' : Failure),
        other.debug = false → other.cors = app.cors → other.Reaches state' request turn' →
        turn'.value.Fails failure' →
        (other.dispatch state' request).value = (app.dispatch state request).value) := by
  constructor
  · intro response hr
    obtain ⟨hvalue, hstate, hlog⟩ := dispatch_of_responds h hr
    exact ⟨hvalue, hvalue ▸ withPolicy_agreesBut _ _ _, hstate, hlog⟩
  · intro failure hf
    obtain ⟨hvalue, hstate, hlog⟩ := dispatch_of_fails h hf
    have hagrees := app.withPolicy_agreesBut (request.header? "origin")
      (Response.internalServerError failure app.debug)
    rw [← hvalue] at hagrees
    refine ⟨hagrees.kind, hagrees.status, hstate, hlog, ?_, ?_⟩
    · intro hdebug
      rw [hagrees.body, ← Failure.describe_eq, hdebug]
      rfl
    · intro hdebug τ other state' turn' failure' hdebug' hcors hreaches' hf'
      rw [(dispatch_of_fails hreaches' hf').1, hvalue, hdebug, hdebug']
      simp only [withPolicy, hcors]
      rfl

/-- A failure with two causes, told in full while debugging. -/
theorem dispatch_error_boundary_of_two_causes :
    let failure : Failure := ⟨"loading report", ["disk on fire", "no space"]⟩
    let entry : Route.Entry (Handler Unit) := ⟨[.get], ⟨"/fail", [.literal "fail"], false⟩,
      .ofFunction fun _ => .error (.failure failure)⟩
    let app : Application Unit := ⟨⟨[entry]⟩, true, false, 0, none, none⟩
    app.Reaches () (Request.new .get "/fail") ⟨.error (.failure failure), (), []⟩ ∧
      (app.dispatch () (Request.new .get "/fail")).value.body = Text.octets
        "loading report\n\nCaused by:\n    0: disk on fire\n    1: no space" := by
  intro failure entry app
  have hreaches : app.Reaches () (Request.new .get "/fail") ⟨.error (.failure failure), (), []⟩ :=
    ⟨entry, [], rfl, rfl⟩
  obtain ⟨_, _, _, _, hbody, _⟩ := (dispatch_error_boundary app () (Request.new .get "/fail") _
    hreaches).2 failure (Or.inl rfl)
  exact ⟨hreaches, (hbody rfl).trans (congrArg Text.octets rfl)⟩

end Application

end WebService
