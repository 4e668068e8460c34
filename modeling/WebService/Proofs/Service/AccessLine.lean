import WebService.Proofs.Response.Sending
import WebService.Proofs.Service.Boundary

/-!
The access log: one line for each request that comes in, about the response that was made for it. A
response that cannot be sent has its line as well, though something else goes out in its place.
-/
namespace WebService

/-- The lines of the access log among messages. -/
def Log.accessLines (log : List Log.Message) : List String :=
  log.filterMap fun message =>
    match message with
    | .access line => some line
    | _ => none

theorem Log.accessLines_append (first second : List Log.Message) :
    accessLines (first ++ second) = accessLines first ++ accessLines second :=
  List.filterMap_append

namespace Application

variable {σ : Type} {app : Application σ} {state : σ} {request : Request} {i : Incoming}
  {time : Calendar.Moment} {micros : Nat} {format : String} {turn : Turn σ (Outcome Response)}
  {response : Response} {fault : BodyFault}

/-! What is written besides the line of a request -/

/-- What the handler that a request reaches writes to the log by itself. -/
def handlerLog (app : Application σ) (state : σ) (request : Request) : List Log.Message :=
  match app.table.lookup request.method request.path app.strictSlashes with
  | .route entry vars => (entry.target state { request with vars := vars }).log
  | _ => []

theorem accessLines_settle :
    Log.accessLines (app.settle request turn).log = Log.accessLines turn.log := by
  unfold settle
  split
  · rfl
  · rfl
  · simp [fail, Log.accessLines]
  · simp [fail, Log.accessLines]

theorem accessLines_share : Log.accessLines (app.share request response).2 = [] := by
  rw [Log.accessLines, List.filterMap_eq_nil_iff]
  intro message hm
  obtain ⟨text, rfl⟩ := mem_share_snd hm
  rfl

theorem accessLines_dispatch : Log.accessLines (app.dispatch state request).log =
    Log.accessLines (app.handlerLog state request) := by
  rw [dispatch_log, Log.accessLines_append, accessLines_share, List.append_nil]
  unfold answer handlerLog
  cases app.table.lookup request.method request.path app.strictSlashes with
  | route entry vars => exact accessLines_settle
  | methodNotAllowed allowed => rfl
  | notFound => rfl

theorem accessLines_turnAway : Log.accessLines (app.turnAway request fault).2 = [] := by
  unfold turnAway
  cases fault <;> cases app.cors <;> rfl

theorem accessLines_toSent : Log.accessLines response.toSent.2 = [] := by
  by_cases h : response.CanSend
  · rw [Response.toSent_of_canSend h]
    rfl
  · obtain ⟨fault, -, hsent⟩ := Response.toSent_of_not_canSend h
    rw [hsent]
    rfl

/-! The exchange -/

/-- The request as it is read, and the response that is made for it, before it is sent. -/
def exchange (app : Application σ) (state : σ) (i : Incoming) : Request × Turn σ Response :=
  match i.body app.maxBodySize with
  | .ok body => (i.request body, app.dispatch state (i.request body))
  | .error fault =>
    let (response, messages) := app.turnAway (i.request []) fault
    (i.request [], ⟨response, state, messages⟩)

/-- What a handler writes to the log by itself while a request is served. -/
def ownLog (app : Application σ) (state : σ) (i : Incoming) : List Log.Message :=
  match i.body app.maxBodySize with
  | .ok body => app.handlerLog state (i.request body)
  | .error _ => []

/-- What is kept of the exchange. -/
def entry (app : Application σ) (state : σ) (i : Incoming) (time : Calendar.Moment)
    (micros : Nat) : Log.Entry :=
  Log.Entry.ofExchange (app.exchange state i).1 (app.exchange state i).2.value time micros

theorem accessLines_exchange : Log.accessLines (app.exchange state i).2.log =
    Log.accessLines (app.ownLog state i) := by
  unfold exchange ownLog
  cases i.body app.maxBodySize with
  | ok body => exact accessLines_dispatch
  | error fault => exact accessLines_turnAway

theorem handle_of_accessLog (h : app.accessLog = some format) :
    app.handle state i time micros =
      ⟨(app.exchange state i).2.value.toSent.1, (app.exchange state i).2.state,
        (app.exchange state i).2.log ++ [.access ((app.entry state i time micros).format format)] ++
          (app.exchange state i).2.value.toSent.2⟩ := by
  unfold entry exchange handle
  cases i.body app.maxBodySize with
  | ok body => simp [h]
  | error fault => simp [h]

/-- One line is written for a request, whatever handlers write by themselves. It tells the status
and the number of octets that are sent, if the response that was made can be sent; if not, it still
tells those of that response, and a plain server error goes out. -/
theorem access_line_tells_response (app : Application σ) (state : σ) (i : Incoming)
    (time : Calendar.Moment) (micros : Nat) (format : String) (h : app.accessLog = some format) :
    Log.accessLines (app.handle state i time micros).log =
      Log.accessLines (app.ownLog state i) ++ [(app.entry state i time micros).format format] ∧
    ((app.exchange state i).2.value.CanSend →
      (app.entry state i time micros).status = (app.handle state i time micros).value.status ∧
      (app.entry state i time micros).bodyBytes =
        (app.handle state i time micros).value.body.length) ∧
    (¬ (app.exchange state i).2.value.CanSend →
      (app.handle state i time micros).value =
        ⟨500, [], Text.octets "Internal Server Error."⟩ ∧
      (app.entry state i time micros).status = (app.exchange state i).2.value.status ∧
      (app.entry state i time micros).bodyBytes = (app.exchange state i).2.value.body.length ∧
      ∃ fault : Response.SendFault, (app.handle state i time micros).log.getLast? =
        some (.error ("Failed to build " ++ toString (app.entry state i time micros).status ++
          " response: " ++ fault.message))) := by
  rw [handle_of_accessLog h]
  refine ⟨?_, ?_, ?_⟩
  · rw [Log.accessLines_append, Log.accessLines_append, accessLines_toSent, List.append_nil,
      accessLines_exchange]
    rfl
  · intro hcan
    rw [Response.toSent_of_canSend hcan]
    exact ⟨rfl, rfl⟩
  · intro hcan
    obtain ⟨fault, -, hsent⟩ := Response.toSent_of_not_canSend hcan
    rw [hsent]
    exact ⟨rfl, rfl, rfl, fault, List.getLast?_concat⟩

/-- A request that is answered, and one that is turned away for a body of three octets. -/
theorem access_line_tells_response_of_short_limit :
    let app : Application Unit := ⟨⟨[⟨[.post], ⟨"/x", [.literal "x"], false⟩,
      .ofFunction fun _ => .ok (Response.ok "hi")⟩]⟩, false, false, 2, none,
      some "$status $body_bytes_sent"⟩
    let time := Calendar.Moment.ofSeconds 0 0
    let incoming (body : List UInt8) : Incoming := ⟨.post, "/x", .http11, [], [.data body], none⟩
    (Log.accessLines (app.handle () (incoming [1, 2]) time 0).log = ["200 2"] ∧
      (app.handle () (incoming [1, 2]) time 0).value.status = 200 ∧
      (app.handle () (incoming [1, 2]) time 0).value.body.length = 2) ∧
    Log.accessLines (app.handle () (incoming [1, 2, 3]) time 0).log = ["413 18"] ∧
      (app.handle () (incoming [1, 2, 3]) time 0).value.status = 413 ∧
      (app.handle () (incoming [1, 2, 3]) time 0).value.body.length = 18 := by
  intro app time incoming
  have hanswered : (app.exchange () (incoming [1, 2])).2.value.toSent =
      (⟨200, [("content-type", "text/plain; charset=utf-8")], Text.octets "hi"⟩, []) := by
    decide +kernel
  have hrefused : (app.exchange () (incoming [1, 2, 3])).2.value.toSent =
      (⟨413, [("content-type", "text/plain; charset=utf-8")], Text.octets "Payload too large."⟩,
        []) := by
    decide +kernel
  have hentry : Log.accessLines (app.ownLog () (incoming [1, 2])) ++
        [(app.entry () (incoming [1, 2]) time 0).format "$status $body_bytes_sent"] = ["200 2"] ∧
      (app.entry () (incoming [1, 2]) time 0).status = 200 ∧
      (app.entry () (incoming [1, 2]) time 0).bodyBytes = 2 := by
    decide +kernel
  have hentry' : Log.accessLines (app.ownLog () (incoming [1, 2, 3])) ++
        [(app.entry () (incoming [1, 2, 3]) time 0).format "$status $body_bytes_sent"] =
          ["413 18"] ∧
      (app.entry () (incoming [1, 2, 3]) time 0).status = 413 ∧
      (app.entry () (incoming [1, 2, 3]) time 0).bodyBytes = 18 := by
    decide +kernel
  obtain ⟨hline, htells, -⟩ := access_line_tells_response app () (incoming [1, 2]) time 0 _ rfl
  obtain ⟨hline', htells', -⟩ :=
    access_line_tells_response app () (incoming [1, 2, 3]) time 0 _ rfl
  obtain ⟨hstatus, hlength⟩ := htells (Response.toSent_eq_iff.mp hanswered).1
  obtain ⟨hstatus', hlength'⟩ := htells' (Response.toSent_eq_iff.mp hrefused).1
  exact ⟨⟨hline.trans hentry.1, hstatus.symm.trans hentry.2.1, hlength.symm.trans hentry.2.2⟩,
    hline'.trans hentry'.1, hstatus'.symm.trans hentry'.2.1, hlength'.symm.trans hentry'.2.2⟩

/-- The line of a response that cannot be sent tells nothing of what goes out. -/
theorem access_line_of_unsent_response :
    let app : Application Unit := ⟨⟨[⟨[.get], ⟨"/x", [.literal "x"], false⟩,
      .ofFunction fun _ => .ok ((Response.ok "x").setHeader "X-Note" "a\nb")⟩]⟩, false, false, 0,
      none, some "$status $body_bytes_sent"⟩
    let i : Incoming := ⟨.get, "/x", .http11, [], [], none⟩
    let served := app.handle () i (.ofSeconds 0 0) 0
    app.ownLog () i = [] ∧ Log.accessLines served.log = ["200 1"] ∧
      served.value.status = 500 ∧ served.value.body.length = 22 := by
  decide +kernel

end Application

end WebService
