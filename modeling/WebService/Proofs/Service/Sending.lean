import WebService.Proofs.Response.Sending
import WebService.Proofs.Service.BodyLimit
import WebService.Proofs.Service.Boundary

/-!
Sending answers under a policy. What the policy lists goes into headers as it is; if it cannot stand
there, every answer to an origin that is let in becomes a plain server error.
-/
namespace WebService

variable {c : Cors} {allowed : String} {sender : Option String} {r : Response}

theorem Header.isValue_of_isPlain {value : String} (h : isPlain value = true) :
    isValue value = true := by
  simp only [isPlain, isValue, List.all_eq_true] at h ⊢
  intro char hchar
  have hplain := h char hchar
  simp only [isValueChar, Bool.or_eq_true, Bool.and_eq_true, decide_eq_true_eq] at hplain ⊢
  rcases hplain with htab | ⟨hlow, hhigh⟩
  · exact Or.inl htab
  · exact Or.inr ⟨hlow, by omega⟩

namespace Response

theorem canSend_setHeader (name value : String) (h : ∀ header ∈ r.headers, Header.CanSend header)
    (hname : Header.isName name = true) (hvalue : Header.isValue value = true) :
    ∀ header ∈ (r.setHeader name value).headers, Header.CanSend header := by
  intro header hm
  rcases mem_setIn hm with hm | ⟨rfl, rfl | ⟨v, hv⟩⟩
  · exact h header hm
  · exact ⟨hname, hvalue⟩
  · exact ⟨(h _ hv).1, hvalue⟩

end Response

namespace Cors

open Response

/-- Whether what the policy lists can stand in a header. -/
def CanSend (c : Cors) : Prop :=
  Header.isValue (", ".intercalate c.headers) = true ∧
    Header.isValue (", ".intercalate c.methods) = true

theorem canSend_of_mem_granted {header : String × String} (hm : header ∈ c.granted allowed)
    (hallowed : Header.isValue allowed = true) (hc : c.CanSend) : Header.CanSend header := by
  have hnames : ∀ name ∈ headerNames, Header.isName name = true := by decide
  refine ⟨hnames _ (mem_headerNames_of_mem_granted hm), ?_⟩
  simp only [granted, List.mem_append, List.mem_ite_nil_left, List.mem_ite_nil_right,
    List.mem_cons, List.not_mem_nil, or_false] at hm
  rcases hm with ((⟨-, rfl⟩ | rfl) | ⟨-, rfl⟩) | rfl | rfl
  · decide
  · exact hallowed
  · decide
  · exact hc.1
  · exact hc.2

theorem canSend_grant (h : ∀ header ∈ r.headers, Header.CanSend header)
    (hallowed : Header.isValue allowed = true) (hc : c.CanSend) :
    ∀ header ∈ (c.grant allowed r).headers, Header.CanSend header := by
  refine grant_induction (P := fun s => ∀ header ∈ s.headers, Header.CanSend header) h ?_
  intro s header hm hs
  have hsend := canSend_of_mem_granted hm hallowed hc
  exact canSend_setHeader header.1 header.2 hs hsend.1 hsend.2

theorem not_canSend_grant (allowed : String) (r : Response) (hc : ¬ c.CanSend) :
    ∃ header ∈ (c.grant allowed r).headers, ¬ Header.CanSend header := by
  by_cases hmethods : Header.isValue (", ".intercalate c.methods) = true
  · have hheaders : ¬ Header.isValue (", ".intercalate c.headers) = true :=
      fun h => hc ⟨h, hmethods⟩
    have hfound : (c.grant allowed r).header? "Access-Control-Allow-Headers" =
        some (", ".intercalate c.headers) := by
      unfold grant
      rw [header?_setHeader_of_ne (by decide)]
      exact header?_setHeader_self
    obtain ⟨n, hn⟩ := mem_headers_of_header? hfound
    exact ⟨_, hn, fun h => hheaders h.2⟩
  · have hfound : (c.grant allowed r).header? "Access-Control-Allow-Methods" =
        some (", ".intercalate c.methods) := header?_setHeader_self
    obtain ⟨n, hn⟩ := mem_headers_of_header? hfound
    exact ⟨_, hn, fun h => hmethods h.2⟩

theorem length_granted_le : (c.granted allowed).length ≤ headerNames.length := by
  unfold granted
  split
  · split <;> simp [headerNames]
  · split <;> simp [headerNames]

theorem length_grant_le :
    (c.grant allowed r).headers.length ≤ r.headers.length + headerNames.length := by
  rw [grant_eq_foldl]
  exact Nat.le_trans length_foldl_setHeader_le (Nat.add_le_add_left length_granted_le _)

end Cors

namespace Application

variable {σ : Type} {app : Application σ}

/-- Whether answers to a sender can be sent with the headers that the policy adds. -/
def CanSendTo (app : Application σ) (sender : Option String) : Prop :=
  ∀ cors, app.cors = some cors → cors.Admits sender → cors.CanSend

theorem withPolicy_of_canSendTo (h : app.CanSendTo sender)
    (hsender : ∀ origin, sender = some origin → Header.isPlain origin = true)
    (hr : ∀ header ∈ r.headers, Header.CanSend header) :
    (∀ header ∈ (app.withPolicy sender r).headers, Header.CanSend header) ∧
      (app.withPolicy sender r).headers.length ≤ r.headers.length + Cors.headerNames.length := by
  unfold withPolicy
  split
  · exact ⟨hr, by omega⟩
  · rename_i cors hcors
    by_cases hadmits : cors.Admits sender
    · obtain ⟨allowed, heq, hallowed⟩ := Cors.apply_of_admits (r := r) hadmits
      have hvalue : Header.isValue allowed = true := by
        rcases hallowed with rfl | hallowed
        · decide
        · exact Header.isValue_of_isPlain (hsender allowed hallowed)
      rw [heq]
      exact ⟨Cors.canSend_grant hr hvalue (h cors hcors hadmits), Cors.length_grant_le⟩
    · rw [Cors.apply_of_not_admits hadmits]
      exact ⟨hr, by omega⟩

/-- An answer that can be sent by itself is sent with its status and body, whatever headers the
policy adds that can be sent. -/
theorem toSent_withPolicy (h : app.CanSendTo sender)
    (hsender : ∀ origin, sender = some origin → Header.isPlain origin = true)
    (hr : r.IsSendable) :
    (app.withPolicy sender r).toSent.1.status = r.status ∧
      (app.withPolicy sender r).toSent.1.body = r.body := by
  have hagrees := app.withPolicy_agreesBut sender r
  obtain ⟨hstatus, hall, hroom⟩ := hr
  have hheaders : ∀ header ∈ r.headers, Header.CanSend header := by
    intro header hm
    apply hall
    unfold Response.outgoing
    split
    · exact hm
    · exact List.mem_cons_of_mem _ hm
  obtain ⟨hsendable, hlength⟩ := withPolicy_of_canSendTo h hsender hheaders
  have hsend : (∀ header ∈ (app.withPolicy sender r).outgoing, Header.CanSend header) ∧
      (app.withPolicy sender r).outgoing.length ≤ Header.Fields.capacity := by
    unfold Response.outgoing at hall hroom ⊢
    rw [hagrees.mimetype, hagrees.contentType]
    split
    · rename_i hmimetype
      rw [if_pos hmimetype] at hroom
      exact ⟨hsendable, Nat.le_trans hlength hroom⟩
    · rename_i hmimetype
      rw [if_neg hmimetype] at hall hroom
      rw [List.length_cons] at hroom ⊢
      exact ⟨List.forall_mem_cons.mpr ⟨hall _ List.mem_cons_self, hsendable⟩, by omega⟩
  have hcan : (app.withPolicy sender r).CanSend := by
    refine ⟨?_, Response.headersFit_iff.mpr ⟨hsend.1, Header.hasRoom_of_length_le hsend.2⟩⟩
    rw [hagrees.status]
    exact hstatus
  rw [Response.toSent_of_canSend hcan]
  exact ⟨hagrees.status, hagrees.body⟩

/-- Where the policy lists what cannot be sent, no answer gets out. -/
theorem toSent_withPolicy_of_not (h : ¬ app.CanSendTo sender) :
    (app.withPolicy sender r).toSent.1 = Response.fallback := by
  simp only [CanSendTo, Classical.not_forall] at h
  obtain ⟨cors, hcors, hadmits, hc⟩ := h
  obtain ⟨allowed, heq, -⟩ := Cors.apply_of_admits (r := r) hadmits
  obtain ⟨header, hm, hn⟩ := Cors.not_canSend_grant allowed r hc
  have hpolicy : app.withPolicy sender r = cors.grant allowed r := by
    simp only [withPolicy, hcors, heq]
  rw [hpolicy]
  have hmem : header ∈ (cors.grant allowed r).outgoing := by
    unfold Response.outgoing
    split
    · exact hm
    · exact List.mem_cons_of_mem _ hm
  obtain ⟨fault, -, hsent⟩ := Response.toSent_of_not_canSend (Response.not_canSend_of_mem hmem hn)
  rw [hsent]

/-- What is sent to a client that is owed an answer: the answer, or a plain server error where the
policy lists what cannot be sent. -/
structure Sends (app : Application σ) (request : Request) (status : Nat) (body : List UInt8)
    (sent : Sent) : Prop where
  told : app.CanSendTo (request.header? "origin") → sent.status = status ∧ sent.body = body
  untold : ¬ app.CanSendTo (request.header? "origin") → sent = Response.fallback

/-- What a handler comes to is sent, and its changes stand whether or not it can be sent. -/
theorem handle_of_responds {state : σ} {i : Incoming} {time : Calendar.Moment} {micros : Nat}
    {body : List UInt8} {turn : Turn σ (Outcome Response)}
    (hbody : i.body app.maxBodySize = .ok body) (h : app.Reaches state (i.request body) turn)
    (hr : turn.value.Responds r) (hs : r.IsSendable) :
    (app.handle state i time micros).state = turn.state ∧
      app.Sends (i.request body) r.status r.body (app.handle state i time micros).value := by
  obtain ⟨hvalue, hstate⟩ : (app.handle state i time micros).value =
        (app.dispatch state (i.request body)).value.toSent.1 ∧
      (app.handle state i time micros).state = (app.dispatch state (i.request body)).state :=
    handle_of_body_ok hbody
  obtain ⟨hresponse, hturn, -⟩ := dispatch_of_responds h hr
  have hplain : ∀ origin, (i.request body).header? "origin" = some origin →
      Header.isPlain origin = true :=
    fun origin ho => (Option.filter_eq_some_iff.mp ho).2
  refine ⟨hstate.trans hturn, ?_, ?_⟩
  · intro hc
    rw [hvalue, hresponse]
    exact toSent_withPolicy hc hplain hs
  · intro hc
    rw [hvalue, hresponse]
    exact toSent_withPolicy_of_not hc

end Application

end WebService
