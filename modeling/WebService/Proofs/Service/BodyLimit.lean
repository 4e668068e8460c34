import WebService.Proofs.Number.Integer
import WebService.Proofs.Request.Address
import WebService.Proofs.Service.Dispatch

/-!
The limit on bodies: a request whose body is too large, by what it declares or by what comes, is
turned away unseen by any handler; every other request is dispatched with its whole body.
-/
namespace WebService

theorem Number.digit_of_mem_readNat {limit n : Nat} {cs : List Char} {c : Char}
    (h : readNat limit cs = some n) (hc : c ∈ cs) : c = '+' ∨ c.isDigit = true := by
  have hdigits : ∀ ds, (if allDigits ds then
      (if natOfDigits ds ≤ limit then some (natOfDigits ds) else none) else none) = some n →
      ∀ d ∈ ds, d.isDigit = true := by
    intro ds hds d hd
    split at hds
    · rename_i hall
      simp only [allDigits, Bool.and_eq_true, List.all_eq_true] at hall
      exact hall.2 d hd
    · cases hds
  unfold readNat at h
  split at h
  · rcases List.mem_cons.mp hc with rfl | hc
    · exact Or.inl rfl
    · exact Or.inr (hdigits _ h c hc)
  · exact Or.inr (hdigits _ h c hc)

/-- A text that is read as a number is plain. -/
theorem Header.isPlain_of_readUInt64 {value : String} {n : Nat}
    (h : Number.readUInt64 value.toList = some n) : Header.isPlain value = true := by
  rw [Header.isPlain, List.all_eq_true]
  intro c hc
  rcases Number.digit_of_mem_readNat h hc with rfl | hd
  · decide
  · have hbounds := Number.toNat_of_isDigit hd
    have hplain : 0x20 ≤ c.toNat ∧ c.toNat < 0x7f := by omega
    simp [hplain]

def Chunk.octets : Chunk → List UInt8
  | .data octets => octets
  | _ => []

namespace Incoming

variable {i : Incoming} {limit size : Nat} {chunks : List Chunk}

/-- The octets that come, in whatever chunks. -/
def octets (i : Incoming) : List UInt8 := i.chunks.flatMap Chunk.octets

/-- Whether the body can be read to its end. -/
def IsReadable (i : Incoming) : Prop := ∀ message, .fault message ∉ i.chunks

/-- Whether more than `limit` octets are declared by the first field for that, or do come. -/
def Exceeds (i : Incoming) (limit : Nat) : Prop :=
  (∃ value size, Header.Fields.first? i.fields "content-length" = some value ∧
    Number.readUInt64 value.toList = some size ∧ limit < size) ∨
  limit < i.octets.length

/-- Whether a request is the one that comes in, with the given body: what its address leads
to, with all else as it comes. Nothing is captured before a route is found. -/
structure Assembles (i : Incoming) (body : List UInt8) (request : Request) : Prop where
  method : request.method = i.method
  target : ∀ path query, Request.Locates i.address path query ↔
    request.path = path ∧ request.query = query
  args : request.args = (request.query.map Text.decodeForm).getD []
  version : request.version = i.version
  fields : request.fields = i.fields
  body : request.body = body
  vars : request.vars = []
  peer : request.peer = i.peer

theorem assembles_request (body : List UInt8) : i.Assembles body (i.request body) where
  method := rfl
  target path query := by
    rw [Request.locates_iff, Prod.ext_iff]
    rfl
  args := rfl
  version := rfl
  fields := rfl
  body := rfl
  vars := rfl
  peer := rfl

theorem declaredSize?_eq_some_iff : i.declaredSize? = some size ↔
    ∃ value, Header.Fields.first? i.fields "content-length" = some value ∧
      Number.readUInt64 value.toList = some size := by
  simp only [declaredSize?, Option.bind_eq_some_iff, Option.filter_eq_some_iff]
  constructor
  · rintro ⟨value, ⟨hv, _⟩, hs⟩
    exact ⟨value, hv, hs⟩
  · rintro ⟨value, hv, hs⟩
    exact ⟨value, ⟨hv, Header.isPlain_of_readUInt64 hs⟩, hs⟩

/-- However the octets are cut into chunks, only their number decides. -/
theorem readChunks_eq (h : ∀ message, .fault message ∉ chunks) :
    readChunks limit chunks =
      if limit < (chunks.flatMap Chunk.octets).length then .error .tooLarge
      else .ok (chunks.flatMap Chunk.octets) := by
  induction chunks generalizing limit with
  | nil => simp [readChunks]
  | cons chunk rest ih =>
    have hrest : ∀ message, .fault message ∉ rest :=
      fun message hm => h message (List.mem_cons_of_mem _ hm)
    cases chunk with
    | fault message => exact absurd List.mem_cons_self (h message)
    | trailers => simpa [readChunks, Chunk.octets] using ih hrest
    | data octets =>
      simp only [readChunks, Chunk.octets, List.flatMap_cons, List.length_append, ih hrest]
      generalize rest.flatMap Chunk.octets = later
      by_cases hl : limit < octets.length
      · have hsum : limit < octets.length + later.length := by omega
        simp [hl, hsum]
      · by_cases hr : limit - octets.length < later.length
        · have hsum : limit < octets.length + later.length := by omega
          rw [if_neg hl, if_pos hr, if_pos hsum]
          rfl
        · have hsum : ¬ limit < octets.length + later.length := by omega
          rw [if_neg hl, if_neg hr, if_neg hsum]
          rfl

theorem readChunks_of_isReadable (h : i.IsReadable) : readChunks limit i.chunks =
    if limit < i.octets.length then .error .tooLarge else .ok i.octets := readChunks_eq h

theorem body_of_exceeds (h : i.IsReadable) (hl : i.Exceeds limit) :
    i.body limit = .error .tooLarge := by
  rcases hl with ⟨value, size, hv, hs, hl⟩ | hl
  · have hd : i.declaredSize? = some size := declaredSize?_eq_some_iff.mpr ⟨value, hv, hs⟩
    simp [body, hd, hl]
  · unfold body
    split
    · rfl
    · rw [readChunks_of_isReadable h, if_pos hl]

theorem body_of_not_exceeds (h : i.IsReadable) (hl : ¬ i.Exceeds limit) :
    i.body limit = .ok i.octets := by
  have hdeclared : ¬ (i.declaredSize?.map fun size => decide (limit < size)).getD false = true := by
    intro hd
    cases hs : i.declaredSize? with
    | none => simp [hs] at hd
    | some size =>
      obtain ⟨value, hv, hr⟩ := declaredSize?_eq_some_iff.mp hs
      exact hl (Or.inl ⟨value, size, hv, hr, by simpa [hs] using hd⟩)
  rw [body, if_neg hdeclared, readChunks_of_isReadable h,
    if_neg (fun hlen => hl (Or.inr hlen))]

end Incoming

namespace Application

variable {σ : Type} {app : Application σ} {state : σ} {i : Incoming} {time : Calendar.Moment}
  {micros : Nat}

theorem turnAway_tooLarge {request : Request} : (app.turnAway request .tooLarge).1 =
    app.withPolicy (request.header? "origin") Response.payloadTooLarge := by
  cases hc : app.cors <;> simp [turnAway, withPolicy, hc]

theorem handle_of_body_error {fault : BodyFault} (h : i.body app.maxBodySize = .error fault) :
    (app.handle state i time micros).value = (app.turnAway (i.request []) fault).1.toSent.1 ∧
      (app.handle state i time micros).state = state := by
  simp [handle, h]

theorem handle_of_body_ok {body : List UInt8} (h : i.body app.maxBodySize = .ok body) :
    (app.handle state i time micros).value =
        (app.dispatch state (i.request body)).value.toSent.1 ∧
      (app.handle state i time micros).state = (app.dispatch state (i.request body)).state := by
  simp [handle, h]

/-- Without a body to be dispatched, no route has a say. -/
theorem handle_withTable_of_body_error {fault : BodyFault}
    (h : i.body app.maxBodySize = .error fault) (table : Route.Table (Handler σ)) :
    ({ app with table := table } : Application σ).handle state i time micros =
      app.handle state i time micros := by
  simp only [handle, h]
  rfl

/-- A request whose body declares or has more octets than the limit gets the same answer from all
routes, without a handler having changed anything: that it is too large, with the headers for its
origin. Any other is dispatched, however its body is cut into chunks, as it came and with the whole
of its body. -/
theorem handle_body_limit (app : Application σ) (state : σ) (i : Incoming) (time : Calendar.Moment)
    (micros : Nat) (h : i.IsReadable) :
    (i.Exceeds app.maxBodySize →
      i.Assembles [] (i.request []) ∧
      (app.handle state i time micros).value =
        (app.withPolicy ((i.request []).header? "origin") Response.payloadTooLarge).toSent.1 ∧
      (app.withPolicy ((i.request []).header? "origin") Response.payloadTooLarge).status = 413 ∧
      (app.handle state i time micros).state = state ∧
      ∀ table, ({ app with table := table } : Application σ).handle state i time micros =
        app.handle state i time micros) ∧
    (¬ i.Exceeds app.maxBodySize →
      i.Assembles i.octets (i.request i.octets) ∧
      (app.handle state i time micros).value =
        (app.dispatch state (i.request i.octets)).value.toSent.1 ∧
      (app.handle state i time micros).state =
        (app.dispatch state (i.request i.octets)).state) := by
  constructor
  · intro hl
    have hbody := Incoming.body_of_exceeds h hl
    obtain ⟨hvalue, hstate⟩ := handle_of_body_error hbody
    rw [turnAway_tooLarge] at hvalue
    exact ⟨Incoming.assembles_request [], hvalue, (withPolicy_agreesBut _ _ _).status, hstate,
      handle_withTable_of_body_error hbody⟩
  · intro hl
    exact ⟨Incoming.assembles_request i.octets,
      handle_of_body_ok (Incoming.body_of_not_exceeds h hl)⟩

/-- Four octets are not too many where four may come, though fewer are declared, and the handler for
their path sends them back; five are. -/
theorem handle_body_limit_of_four :
    let app : Application Unit := ⟨⟨[⟨[.post], ⟨"/echo", [.literal "echo"], false⟩,
      .ofFunction fun request => .ok (Response.binary request.body none)⟩]⟩, false, false, 4,
      some Cors.permissive, none⟩
    let fields := [("content-length", "3"), ("origin", "https://a.example")]
    let peer : Option Network.Address := some ⟨.four [127, 0, 0, 1], 0, 4711⟩
    let incoming (chunks : List Chunk) : Incoming :=
      ⟨.post, "http://b.example/echo?to=a+b#top", .http10, fields, chunks, peer⟩
    let fitting := incoming [.data [1, 2], .data [], .data [3, 4], .trailers]
    let exceeding := incoming [.data [1, 2], .data [3, 4, 5]]
    let time := Calendar.Moment.ofSeconds 0 0
    (fitting.IsReadable ∧ ¬ fitting.Exceeds 4 ∧
      fitting.request fitting.octets = ⟨.post, "/echo", some "to=a+b", [("to", "a b")], .http10,
        fields, [1, 2, 3, 4], [], peer⟩ ∧
      fitting.Assembles fitting.octets (fitting.request fitting.octets) ∧
      (app.handle () fitting time 0).value =
        (app.dispatch () (fitting.request fitting.octets)).value.toSent.1 ∧
      (app.handle () fitting time 0).value.status = 200 ∧
      (app.handle () fitting time 0).value.body = [1, 2, 3, 4]) ∧
    exceeding.IsReadable ∧ exceeding.Exceeds 4 ∧
      (app.handle () exceeding time 0).value =
        (app.withPolicy (some "https://a.example") Response.payloadTooLarge).toSent.1 ∧
      (app.handle () exceeding time 0).value.status = 413 := by
  intro app fields peer incoming fitting exceeding time
  have hfitting : fitting.IsReadable := by simp [fitting, incoming, Incoming.IsReadable]
  have hexceeding : exceeding.IsReadable := by simp [exceeding, incoming, Incoming.IsReadable]
  have hfits : ¬ fitting.Exceeds 4 := by
    rintro (⟨value, size, hv, hs, hl⟩ | hl)
    · have hvalue : some "3" = some value := hv
      cases hvalue
      have hsize : some 3 = some size := hs
      cases hsize
      omega
    · exact absurd hl (by decide)
  have hexceeds : exceeding.Exceeds 4 := Or.inr (by decide)
  obtain ⟨hassembles, hsent, -⟩ := (handle_body_limit app () fitting time 0 hfitting).2 hfits
  obtain ⟨-, hrefused, -⟩ := (handle_body_limit app () exceeding time 0 hexceeding).1 hexceeds
  refine ⟨⟨hfitting, hfits, by decide, hassembles, hsent, ?_, ?_⟩,
    hexceeding, hexceeds, hrefused, ?_⟩
  · rw [hsent]
    decide
  · rw [hsent]
    decide
  · rw [hrefused]
    decide

end Application

end WebService
