import WebService.Log.Entry
import WebService.Proofs.Json.OneLine
import WebService.Proofs.Json.Order
import WebService.Proofs.Json.Written
import WebService.Response.Build

/-!
Lines of the access log as JSON. A line has no line breaks whatever a client has sent, and what it
tells of an exchange is read back from it.
-/
namespace WebService.Log

open Json (IsOneLine Value)

/-- A text that may be missing, as a member of the line. -/
def textOrNull : Option String → Value
  | some s => .text s
  | none => .null

theorem textOrNull_injective : Function.Injective textOrNull := by
  intro first second h
  cases first <;> cases second <;> cases h <;> rfl

theorem ofNat_injective : Function.Injective Value.ofNat := fun _ _ h =>
  Int.ofNat.inj (Json.Number.whole.inj (Value.number.inj h))

/-- Whether an object tells all that an entry keeps besides the time. -/
structure Tells (value : Value) (e : Entry) : Prop where
  remoteAddr : value.member? "remote_addr" = some (.text e.remoteAddr)
  method : value.member? "method" = some (.text e.method)
  path : value.member? "path" = some (.text e.path)
  query : value.member? "query" = some (textOrNull e.query)
  version : value.member? "http_version" = some (.text e.version)
  status : value.member? "status" = some (.ofNat e.status)
  bodyBytes : value.member? "body_bytes" = some (.ofNat e.bodyBytes)
  referer : value.member? "referer" = some (textOrNull e.referer)
  userAgent : value.member? "user_agent" = some (textOrNull e.userAgent)
  micros : value.member? "request_time_us" = some (.ofNat e.micros)

variable {e other : Entry} {value : Value}

/-- An object tells of one exchange only. -/
theorem Tells.unique (h : Tells value e) (hother : Tells value other) :
    { e with time := other.time } = other := by
  have same {α : Type} {write : α → Value} (hwrite : Function.Injective write) {key : String}
      {a b : α} (ha : value.member? key = some (write a))
      (hb : value.member? key = some (write b)) :
      a = b := hwrite (Option.some.inj (ha.symm.trans hb))
  have text := @same String Value.text fun _ _ => Value.text.inj
  have maybe := @same (Option String) textOrNull textOrNull_injective
  have number := @same Nat Value.ofNat ofNat_injective
  cases e
  cases other
  rw [Entry.mk.injEq]
  exact ⟨text h.remoteAddr hother.remoteAddr, rfl, text h.method hother.method,
    text h.path hother.path, maybe h.query hother.query, text h.version hother.version,
    number h.status hother.status, number h.bodyBytes hother.bodyBytes,
    maybe h.referer hother.referer, maybe h.userAgent hother.userAgent,
    number h.micros hother.micros⟩

namespace Entry

/-- Whether the numbers of an entry have 64 bits, as lengths and statuses have. -/
structure IsCounted (e : Entry) : Prop where
  status : e.status ≤ Number.maxUInt64
  bodyBytes : e.bodyBytes ≤ Number.maxUInt64
  micros : e.micros ≤ Number.maxUInt64

/-- The members of the line, in the order in which they stand there. -/
def members (e : Entry) : List (String × Value) := [
  ("remote_addr", .text e.remoteAddr),
  ("time", .text (String.ofList (Calendar.writeUniversal "Z" e.time))),
  ("method", .text e.method),
  ("path", .text e.path),
  ("query", textOrNull e.query),
  ("http_version", .text e.version),
  ("status", .ofNat e.status),
  ("body_bytes", .ofNat e.bodyBytes),
  ("referer", textOrNull e.referer),
  ("user_agent", textOrNull e.userAgent),
  ("request_time_us", .ofNat e.micros)]

theorem jsonLine_eq (e : Entry) : e.jsonLine = (Value.object e.members).compact := by
  have hvalue : e.toDocument.toValue = .ok (.object e.members) := by
    obtain ⟨_, _, _, _, query, _, _, _, referer, userAgent, _⟩ := e
    cases query <;> cases referer <;> cases userAgent <;> rfl
  rw [jsonLine, Json.Document.render, hvalue]
  rfl

theorem isWhole_members (h : e.IsCounted) : (Value.object e.members).isWhole = true := by
  have hword {n : Nat} (hn : n ≤ Number.maxUInt64) : (Value.ofNat n).isWhole = true := by
    have hbound : n ≤ 18446744073709551615 := hn
    exact (Json.Number.isWord_whole (i := n)).mpr (by omega)
  have hnull (s : Option String) : (textOrNull s).isWhole = true := by cases s <;> rfl
  refine Value.all_object.mpr ⟨rfl, ?_⟩
  simp only [members, List.forall_mem_cons]
  exact ⟨rfl, rfl, rfl, rfl, hnull _, rfl, hword h.status, hword h.bodyBytes, hnull _, hnull _,
    hword h.micros, List.forall_mem_nil _⟩

theorem depth_members (e : Entry) : (Value.object e.members).depth = 1 := by
  have hnull (s : Option String) : (textOrNull s).depth = 0 := by cases s <;> rfl
  simp [members, Value.depth, Json.membersDepth, Value.ofNat, hnull]

theorem tells_members (e : Entry) : Tells (Value.object e.members).sorted e := by
  have hmember {key : String} {value : Value} (hsorted : value.sorted = value)
      (h : (key, value) ∈ e.members) :
    (Value.object e.members).sorted.member? key = some value := by
    rw [Value.member?_sorted _ h, hsorted]
    simp only [members, List.map_cons, List.map_nil]
    decide
  have hnull (s : Option String) : (textOrNull s).sorted = textOrNull s := by cases s <;> rfl
  constructor
  case query => exact hmember (hnull _) (by simp [members])
  case referer => exact hmember (hnull _) (by simp [members])
  case userAgent => exact hmember (hnull _) (by simp [members])
  all_goals exact hmember rfl (by simp [members])

theorem parse_jsonLine (h : e.IsCounted) :
    Value.parse e.jsonLine = .ok (Value.object e.members).sorted := by
  rw [jsonLine_eq]
  refine Value.parse_render none (isWhole_members h) ?_
  rw [depth_members]
  decide

theorem isCounted_ofExchange {request : Request} {response : Response} (time : Calendar.Moment)
    (micros : Nat) (hstatus : response.status ≤ Number.maxUInt64)
    (hbody : response.body.length ≤ Number.maxUInt64) :
    (ofExchange request response time micros).IsCounted :=
  ⟨hstatus, hbody, Nat.min_le_right _ _⟩

/-- The line of an exchange has no control characters, and so is one line. It is read back as an
object that tells all that is kept of the exchange, so that another exchange has another line. -/
theorem json_line_tells_exchange (request : Request) (response : Response) (time : Calendar.Moment)
    (micros : Nat) (hstatus : response.status ≤ Number.maxUInt64)
    (hbody : response.body.length ≤ Number.maxUInt64) :
    let e := ofExchange request response time micros
    IsOneLine (e.format "json").toList ∧
    (∃ value, Value.parse (e.format "json") = .ok value ∧ Tells value e) ∧
    ∀ other : Entry, other.IsCounted → e.format "json" = other.format "json" →
      { e with time := other.time } = other := by
  intro e
  have hcounted : e.IsCounted := isCounted_ofExchange time micros hstatus hbody
  refine ⟨?_, ⟨_, parse_jsonLine hcounted, e.tells_members⟩, ?_⟩
  · change IsOneLine e.jsonLine.toList
    rw [jsonLine_eq]
    exact Json.isOneLine_compact (isWhole_members hcounted)
  · intro other hother hline
    have hparse := (parse_jsonLine hcounted).symm.trans
      ((congrArg Value.parse hline).trans (parse_jsonLine hother))
    have htells := e.tells_members
    rw [Except.ok.inj hparse] at htells
    exact htells.unique other.tells_members

/-- What a client sends is escaped, and a duration too long to count is cut. -/
theorem json_line_tells_exchange_of_marks :
    let request := (Request.new Method.get "/a\\?\"\x01é").withField "Referer" "\"\\t"
    let response := Response.ok "\n"
    let time := ⟨Calendar.Date.epoch, Calendar.Time.midnight⟩
    let e := ofExchange request response time 18446744073709551616
    response.status ≤ Number.maxUInt64 ∧ response.body.length ≤ Number.maxUInt64 ∧
    e.format "json" = "\x7b\"remote_addr\":\"-\",\"time\":\"1970-01-01T00:00:00Z\"," ++
      "\"method\":\"GET\",\"path\":\"/a\\\\\",\"query\":\"\\\"\\u0001é\"," ++
      "\"http_version\":\"1.1\"," ++
      "\"status\":200,\"body_bytes\":1,\"referer\":\"\\\"\\\\t\",\"user_agent\":null," ++
      "\"request_time_us\":18446744073709551615\x7d" ∧
    IsOneLine (e.format "json").toList ∧
    (∃ value, Value.parse (e.format "json") = .ok value ∧ Tells value e) ∧
    ∀ other : Entry, other.IsCounted → e.format "json" = other.format "json" →
      { e with time := other.time } = other := by
  intro request response time e
  have hstatus : response.status ≤ Number.maxUInt64 := by decide
  have hbody : response.body.length ≤ Number.maxUInt64 := by decide
  refine ⟨hstatus, hbody, by decide +kernel, ?_⟩
  exact json_line_tells_exchange request response time 18446744073709551616 hstatus hbody

end Entry

end WebService.Log
