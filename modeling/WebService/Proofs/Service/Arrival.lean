import WebService.Proofs.Service.Sending

/-!
Requests that come in one after another, each served with the state that those before it leave.
-/
namespace WebService

/-- A request as it comes in, the time, and the microseconds that its answer takes. -/
structure Arrival where
  incoming : Incoming
  time : Calendar.Moment
  micros : Nat
deriving DecidableEq, Repr

namespace Arrival

/-- A request over HTTP/1.1 whose body comes in one piece. -/
def of (method : Method) (target : String) (fields : Header.Fields) (body : String) : Arrival :=
  ⟨⟨method, target, .http11, fields, [.data (Text.octets body)], none⟩, .ofSeconds 0 0, 0⟩

/-- The request with all of its body. -/
def request (arrival : Arrival) : Request := arrival.incoming.request arrival.incoming.octets

variable {method : Method} {target body : String} {fields : Header.Fields}

theorem path_of : (Arrival.of method target fields body).request.path =
    (Request.new method (Request.targetOf target)).path := by
  simp only [request, Incoming.request, of]

theorem octets_of : (Arrival.of method target fields body).incoming.octets = Text.octets body :=
  List.append_nil _

theorem body_of : (Arrival.of method target fields body).request.body = Text.octets body :=
  List.append_nil _

end Arrival

namespace Application

variable {σ : Type} {app : Application σ} {state : σ} {arrival : Arrival} {rest : List Arrival}
  {request : Request} {response : Response} {turn : Turn σ (Outcome Response)}

def serve (app : Application σ) (state : σ) (arrival : Arrival) : Turn σ Sent :=
  app.handle state arrival.incoming arrival.time arrival.micros

/-- The state after one request and another. -/
def stateAfter (app : Application σ) (state : σ) (run : List Arrival) : σ :=
  run.foldl (fun state arrival => (app.serve state arrival).state) state

theorem stateAfter_cons : app.stateAfter state (arrival :: rest) =
    app.stateAfter (app.serve state arrival).state rest := rfl

theorem stateAfter_append (first second : List Arrival) :
    app.stateAfter state (first ++ second) = app.stateAfter (app.stateAfter state first) second :=
  List.foldl_append

/-- Whether a request comes in and is read to the end of its body. -/
def Reads (app : Application σ) (arrival : Arrival) (request : Request) : Prop :=
  ∃ body, arrival.incoming.body app.maxBodySize = .ok body ∧
    arrival.incoming.request body = request

/-- Whether a request is led to a route for the paths of a pattern, which captures `vars`. -/
def LeadsTo (app : Application σ) (request : Request) (source : String) (vars : Route.Vars) :
    Prop :=
  ∃ entry, app.table.lookup request.method request.path app.strictSlashes = .route entry vars ∧
    entry.pattern.source = source

theorem reads_of {method : Method} {target body : String} {fields : Header.Fields}
    (hdeclared : Header.Fields.first? fields "content-length" = none)
    (hlength : (Text.octets body).length ≤ app.maxBodySize) :
    app.Reads (.of method target fields body) (Arrival.of method target fields body).request := by
  refine ⟨_, Incoming.body_of_not_exceeds ?_ ?_, rfl⟩
  · rintro message hm
    cases List.mem_singleton.mp hm
  · rintro (⟨value, size, hv, -⟩ | hl)
    · cases hdeclared.symm.trans hv
    · rw [Arrival.octets_of] at hl
      omega

theorem reads_unique {other : Request} (h : app.Reads arrival request)
    (ho : app.Reads arrival other) : request = other := by
  obtain ⟨body, hbody, rfl⟩ := h
  obtain ⟨body', hbody', rfl⟩ := ho
  cases hbody.symm.trans hbody'
  rfl

theorem settle_state : (app.settle request turn).state = turn.state := by
  unfold settle
  split <;> rfl

theorem serve_state_of_reads (h : app.Reads arrival request) :
    (app.serve state arrival).state = (app.answer state request).state := by
  obtain ⟨body, hbody, rfl⟩ := h
  exact (handle_of_body_ok hbody).2

theorem serve_state_of_not_reads (h : ∀ request, ¬ app.Reads arrival request) :
    (app.serve state arrival).state = state := by
  cases hbody : arrival.incoming.body app.maxBodySize with
  | ok body => exact absurd ⟨body, hbody, rfl⟩ (h _)
  | error fault => exact (handle_of_body_error hbody).2

theorem serve_of_responds (h : app.Reads arrival request)
    (hreaches : app.Reaches state request turn) (hr : turn.value.Responds response)
    (hs : response.IsSendable) :
    (app.serve state arrival).state = turn.state ∧
      app.Sends request response.status response.body (app.serve state arrival).value := by
  obtain ⟨body, hbody, rfl⟩ := h
  exact handle_of_responds hbody hreaches hr hs

end Application

end WebService
