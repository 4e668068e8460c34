import Mathlib.Data.List.Forall2
import WebService.Proofs.Json.Text
import WebService.Proofs.Notes.Answer
import WebService.Proofs.Route.Lookup
import WebService.Proofs.Service.Arrival

/-!
Runs of the service of notes: whatever requests come in, in whatever order, the notes are those that
a list would hold to which the same texts are added and from which the same places are removed.
-/
namespace WebService.Notes

open Json (Value)
open Paging (Gives PageCount)
open Route (Entry Segment Table)

/-! Requests for notes -/

/-- Whether a request is one for the note with a number. -/
def NamesNote (app : Application Store) (request : Request) (id : Nat) : Prop :=
  ∃ vars, app.LeadsTo request "/notes/<int:id>" vars ∧ vars.lookup "id" = some (.integer id)

structure Adds (app : Application Store) (request : Request) (text : String) : Prop where
  method : request.method = .post
  route : ∃ vars, app.LeadsTo request "/notes" vars
  body : request.json newNoteShape = .ok (.record [("text", .text text)])

structure Removes (app : Application Store) (request : Request) (id : Nat) : Prop where
  method : request.method = .delete
  note : NamesNote app request id

structure Shows (app : Application Store) (request : Request) (id : Nat) : Prop where
  method : request.method = .get ∨ request.method = .head
  note : NamesNote app request id

structure Lists (app : Application Store) (request : Request) : Prop where
  method : request.method = .get ∨ request.method = .head
  route : ∃ vars, app.LeadsTo request "/notes" vars

/-- The change that a request makes as it comes in. One to take away a note that is not there
changes nothing. -/
inductive Asks (app : Application Store) (arrival : Arrival) : Change → Prop where
  | add {request : Request} {text : String} (read : app.Reads arrival request)
    (adds : Adds app request text) : Asks app arrival (.add text)
  | remove {request : Request} {id : Nat} (read : app.Reads arrival request)
    (removes : Removes app request id) : Asks app arrival (.remove id)
  | keep (neither : ∀ request, app.Reads arrival request →
      (∀ text, ¬ Adds app request text) ∧ ∀ id, ¬ Removes app request id) : Asks app arrival .keep

/-- How the service serves a request that it has read. -/
structure Serves (app : Application Store) (store : Store) (request : Request)
    (turn : Turn Store Sent) : Prop where
  added : ∀ text, Adds app request text → turn.state = store ++ [text] ∧
    app.Sends request 201 (Text.octets (createdValue store.length).compact) turn.value
  removed : ∀ id, Removes app request id → id < store.length →
    turn.state = store.take id ++ store.drop (id + 1) ∧ app.Sends request 204 [] turn.value
  shown : ∀ id text, Shows app request id → store[id]? = some text →
    app.Sends request 200 (Text.octets text) turn.value
  listed : ∀ page size, Lists app request → request.hasArg "pages" = false →
    Gives request "page" 0 page → Gives request "size" 10 size → 0 < size →
    app.Sends request 200
      (Text.octets (Value.list ((Paging.part page size store).map .text)).compact) turn.value
  counted : ∀ size, Lists app request → request.hasArg "pages" = true →
    Gives request "size" 10 size → 0 < size →
    app.Sends request 200 (Text.octets
      (PageCount.toValue ⟨store.length / size, store.length % size⟩).compact) turn.value
  kept : (∀ text, ¬ Adds app request text) →
    (∀ id, id < store.length → ¬ Removes app request id) → turn.state = store
  refused : app.CanSendTo (request.header? "origin") → 400 ≤ turn.value.status →
    turn.state = store

/-! The routes -/

/-- The routes of the service, in the order in which they are tried. -/
def entries : List (Entry (Handler Store)) :=
  [⟨[.get],
      ⟨"/factorial/<int:value>", [.literal "factorial", .placeholder "value" .integer], false⟩,
      .ofFunction factorial⟩,
    ⟨[.get], ⟨"/status", [.literal "status"], false⟩, .ofFunction status⟩,
    ⟨[.get], ⟨"/greeting.xml", [.literal "greeting.xml"], false⟩, .ofFunction greeting⟩,
    ⟨[.get], ⟨"/notes", [.literal "notes"], false⟩, .reading list⟩,
    ⟨[.post], ⟨"/notes", [.literal "notes"], false⟩, create⟩,
    ⟨note.allowed, ⟨"/notes/<int:id>", [.literal "notes", .placeholder "id" .integer], false⟩,
      note.handle⟩]

/-- The service that a configuration makes. -/
def served (config : Settings.Config) : Application Store where
  table := ⟨entries⟩
  debug := config.app.debug
  strictSlashes := config.app.strictSlashes
  maxBodySize := config.app.maxBodySize
  cors := Cors.ofSetting? config.app.cors
  accessLog := if config.logging.accessLog then some config.logging.accessLogFormat else none

theorem application_eq (config : Settings.Config) : application config = .ok (served config) := rfl

variable {config : Settings.Config} {store : Store} {request : Request} {text : String}
  {id page size : Nat} {arrival : Arrival} {change : Change} {entry : Entry (Handler Store)}
  {vars : Route.Vars}

theorem target_of_post (he : entry ∈ entries) (hs : entry.pattern.source = "/notes")
    (ha : entry.accepts .post = true) : entry.target = create := by
  simp only [entries, List.mem_cons, List.not_mem_nil, or_false] at he
  rcases he with rfl | rfl | rfl | rfl | rfl | rfl
  case inr.inr.inr.inr.inl => rfl
  case inr.inr.inr.inl => exact absurd ha (by decide)
  all_goals exact absurd hs (by decide)

theorem target_of_get (he : entry ∈ entries) (hs : entry.pattern.source = "/notes")
    (ha : entry.accepts .get = true ∨ entry.accepts .head = true) :
    entry.target = .reading list := by
  simp only [entries, List.mem_cons, List.not_mem_nil, or_false] at he
  rcases he with rfl | rfl | rfl | rfl | rfl | rfl
  case inr.inr.inr.inl => rfl
  case inr.inr.inr.inr.inl => exact absurd ha (by decide)
  all_goals exact absurd hs (by decide)

theorem target_of_note (he : entry ∈ entries) (hs : entry.pattern.source = "/notes/<int:id>") :
    entry.target = note.handle := by
  simp only [entries, List.mem_cons, List.not_mem_nil, or_false] at he
  rcases he with rfl | rfl | rfl | rfl | rfl | rfl
  case inr.inr.inr.inr.inr => rfl
  all_goals exact absurd hs (by decide)

/-! What handlers make of requests -/

theorem Adds.reaches (h : Adds (served config) request text) :
    (served config).Reaches store request
      ⟨.ok (created store.length), store ++ [text], []⟩ := by
  obtain ⟨vars, entry, hl, hs⟩ := h.route
  obtain ⟨he, -, ha⟩ := Table.search_eq_route hl
  refine ⟨entry, vars, hl, ?_⟩
  rw [target_of_post he hs (h.method ▸ ha)]
  exact create_of_json h.body

theorem NamesNote.reaches (store : Store) (h : NamesNote (served config) request id) :
    ∃ asked : Request, asked.method = request.method ∧ noteId asked = .ok id ∧
      (served config).Reaches store request (note.handle store asked) := by
  obtain ⟨vars, ⟨entry, hl, hs⟩, hid⟩ := h
  obtain ⟨he, -, -⟩ := Table.search_eq_route hl
  exact ⟨{ request with vars := vars }, rfl, noteId_eq_ok_iff.mpr hid, entry, vars, hl,
    by rw [target_of_note he hs]⟩

theorem Removes.reaches (h : Removes (served config) request id) (hlt : id < store.length) :
    (served config).Reaches store request
      ⟨.ok Response.noContent, store.eraseIdx id, []⟩ := by
  obtain ⟨asked, hm, hid, hreaches⟩ := h.note.reaches store
  rwa [handle_note_of_delete (hm.trans h.method), delete_of_lt hid hlt] at hreaches

theorem Shows.reaches (h : Shows (served config) request id) (ht : store[id]? = some text) :
    (served config).Reaches store request ⟨.ok (Response.ok text), store, []⟩ := by
  obtain ⟨asked, hm, hid, hreaches⟩ := h.note.reaches store
  rwa [handle_note_of_get (hm.symm ▸ h.method), get_of_getElem? hid ht] at hreaches

theorem Lists.reaches (h : Lists (served config) request) :
    (served config).Reaches store request ⟨list store request, store, []⟩ := by
  obtain ⟨vars, entry, hl, hs⟩ := h.route
  obtain ⟨he, -, ha⟩ := Table.search_eq_route hl
  have haccepts : entry.accepts .get = true ∨ entry.accepts .head = true := by
    rcases h.method with hm | hm
    · exact Or.inl (hm ▸ ha)
    · exact Or.inr (hm ▸ ha)
  refine ⟨entry, vars, hl, ?_⟩
  rw [target_of_get he hs haccepts]
  rfl

/-! The notes after a request -/

theorem answer_state_of_removes (h : Removes (served config) request id) :
    ((served config).answer store request).state = store.eraseIdx id := by
  obtain ⟨asked, hm, hid, hreaches⟩ := h.note.reaches store
  rw [Application.answer_of_reaches hreaches, Application.settle_state,
    handle_note_of_delete (hm.trans h.method), delete_state hid]

/-- The only handlers that change the notes are those that add one and take one away. -/
theorem answer_state_of_neither (hadds : ∀ text, ¬ Adds (served config) request text)
    (hremoves : ∀ id, ¬ Removes (served config) request id) :
    ((served config).answer store request).state = store := by
  unfold Application.answer
  cases hl : (served config).table.lookup request.method request.path
      (served config).strictSlashes with
  | notFound => rfl
  | methodNotAllowed allowed => rfl
  | route entry vars =>
    obtain ⟨he, -, ha⟩ := Table.search_eq_route hl
    simp only [Application.settle_state]
    simp only [served, entries, List.mem_cons, List.not_mem_nil, or_false] at he
    rcases he with rfl | rfl | rfl | rfl | rfl | rfl
    case inr.inr.inr.inr.inl =>
      have hm : request.method = .post := by
        rcases Entry.accepts_iff.mp ha with hm | ⟨-, hg⟩
        · exact List.mem_singleton.mp hm
        · exact absurd hg (by decide)
      exact create_state fun text hjson => hadds text ⟨hm, ⟨vars, _, hl, rfl⟩, hjson⟩
    case inr.inr.inr.inr.inr =>
      have hasked : ∀ asked : Request, asked.method = request.method → asked.vars = vars →
          (note.handle store asked).state = store := by
        intro asked hmethod hvars
        by_cases hm : request.method = .delete
        · rw [handle_note_of_delete (hmethod.trans hm)]
          refine delete_state_of_error fun id hid => hremoves id ⟨hm, vars, ⟨_, hl, rfl⟩, ?_⟩
          exact hvars ▸ noteId_eq_ok_iff.mp hid
        · exact handle_note_state (hmethod.symm ▸ hm)
      exact hasked _ rfl rfl
    all_goals rfl

/-! One request -/

theorem serve_of_adds (store : Store) (h : (served config).Reads arrival request)
    (hadds : Adds (served config) request text) :
    ((served config).serve store arrival).state = store ++ [text] ∧
      (served config).Sends request 201 (Text.octets (createdValue store.length).compact)
        ((served config).serve store arrival).value :=
  Application.serve_of_responds h hadds.reaches (Or.inl rfl)
    (Response.isSendable_of_json (by decide))

theorem serve_of_removes (h : (served config).Reads arrival request)
    (hremoves : Removes (served config) request id) (hlt : id < store.length) :
    ((served config).serve store arrival).state = store.take id ++ store.drop (id + 1) ∧
      (served config).Sends request 204 [] ((served config).serve store arrival).value := by
  rw [← List.eraseIdx_eq_take_drop_succ]
  exact Application.serve_of_responds h (hremoves.reaches hlt) (Or.inl rfl)
    Response.isSendable_noContent

theorem serve_state_of_neither (h : (served config).Reads arrival request)
    (hadds : ∀ text, ¬ Adds (served config) request text)
    (hremoves : ∀ id, id < store.length → ¬ Removes (served config) request id) :
    ((served config).serve store arrival).state = store := by
  rw [Application.serve_state_of_reads h]
  by_cases hany : ∃ id, Removes (served config) request id
  · obtain ⟨id, hr⟩ := hany
    have hle : store.length ≤ id := Nat.le_of_not_lt fun hlt => hremoves id hlt hr
    rw [answer_state_of_removes hr, List.eraseIdx_of_length_le hle]
  · exact answer_state_of_neither hadds fun id hr => hany ⟨id, hr⟩

/-- The two requests that change the notes are answered with 201 and 204. -/
theorem serve_state_of_refused (h : (served config).Reads arrival request)
    (hc : (served config).CanSendTo (request.header? "origin"))
    (hstatus : 400 ≤ ((served config).serve store arrival).value.status) :
    ((served config).serve store arrival).state = store := by
  refine serve_state_of_neither h (fun text hadds => ?_) (fun id hlt hremoves => ?_)
  · have hsent := ((serve_of_adds store h hadds).2.told hc).1
    omega
  · have hsent := ((serve_of_removes h hremoves hlt).2.told hc).1
    omega

/-- How each request is served, whatever notes there are. -/
theorem serve_serves (store : Store) (h : (served config).Reads arrival request) :
    Serves (served config) store request ((served config).serve store arrival) := by
  refine ⟨fun text => serve_of_adds store h, fun id => serve_of_removes h, ?_, ?_, ?_,
    serve_state_of_neither h, serve_state_of_refused h⟩
  · intro id text hshows ht
    exact (Application.serve_of_responds h (hshows.reaches ht) (Or.inl rfl)
      Response.isSendable_ok).2
  · intro page size hlists hinfo hpage hsize hpos
    have hanswer : list store request = _ := list_of_page hinfo hsize hpos hpage
    exact (Application.serve_of_responds h (hanswer ▸ hlists.reaches) (Or.inl rfl)
      (Response.isSendable_of_json (by decide))).2
  · intro size hlists hinfo hsize hpos
    have hanswer : list store request = _ := list_of_info hinfo hsize hpos
    exact (Application.serve_of_responds h (hanswer ▸ hlists.reaches) (Or.inl rfl)
      (Response.isSendable_of_json (by decide))).2

theorem serve_state_of_asks (h : Asks (served config) arrival change) :
    ((served config).serve store arrival).state = change.apply store := by
  cases h with
  | add read adds => exact (serve_of_adds store read adds).1
  | remove read removes =>
    rw [Application.serve_state_of_reads read, answer_state_of_removes removes, Change.apply_remove]
  | keep neither =>
    by_cases hread : ∃ request, (served config).Reads arrival request
    · obtain ⟨request, read⟩ := hread
      exact (Application.serve_state_of_reads read).trans
        (answer_state_of_neither (neither request read).1 (neither request read).2)
    · exact Application.serve_state_of_not_reads fun request read => hread ⟨request, read⟩

theorem exists_asks (app : Application Store) (arrival : Arrival) :
    ∃ change, Asks app arrival change := by
  by_cases hadds : ∃ request text, app.Reads arrival request ∧ Adds app request text
  · obtain ⟨request, text, hread, hadds⟩ := hadds
    exact ⟨_, .add hread hadds⟩
  · by_cases hremoves : ∃ request id, app.Reads arrival request ∧ Removes app request id
    · obtain ⟨request, id, hread, hremoves⟩ := hremoves
      exact ⟨_, .remove hread hremoves⟩
    · exact ⟨_, .keep fun request hread =>
        ⟨fun text h => hadds ⟨request, text, hread, h⟩,
          fun id h => hremoves ⟨request, id, hread, h⟩⟩⟩

theorem NamesNote.unique {app : Application Store} {other : Nat} (h : NamesNote app request id)
    (ho : NamesNote app request other) : id = other := by
  obtain ⟨vars, ⟨entry, hl, -⟩, hid⟩ := h
  obtain ⟨vars', ⟨entry', hl', -⟩, hid'⟩ := ho
  cases hl.symm.trans hl'
  cases hid.symm.trans hid'
  rfl

/-- A request asks for one change only. -/
theorem Asks.unique {app : Application Store} {other : Change} (h : Asks app arrival change)
    (ho : Asks app arrival other) : change = other := by
  cases h with
  | add read adds =>
    cases ho with
    | add read' adds' =>
      cases Application.reads_unique read read'
      cases adds.body.symm.trans adds'.body
      rfl
    | remove read' removes =>
      cases Application.reads_unique read read'
      exact absurd (adds.method.symm.trans removes.method) (by decide)
    | keep neither => exact absurd adds ((neither _ read).1 _)
  | remove read removes =>
    cases ho with
    | add read' adds =>
      cases Application.reads_unique read read'
      exact absurd (adds.method.symm.trans removes.method) (by decide)
    | remove read' removes' =>
      cases Application.reads_unique read read'
      rw [removes.note.unique removes'.note]
    | keep neither => exact absurd removes ((neither _ read).2 _)
  | keep neither =>
    cases ho with
    | add read adds => exact absurd adds ((neither _ read).1 _)
    | remove read removes => exact absurd removes ((neither _ read).2 _)
    | keep _ => rfl

/-! All requests -/

theorem stateAfter_of_asks {run : List Arrival} {changes : List Change}
    (h : List.Forall₂ (Asks (served config)) run changes) :
    (served config).stateAfter store run = Change.applyAll changes store := by
  induction h generalizing store with
  | nil => rfl
  | cons hasks _ ih =>
    rw [Application.stateAfter_cons, serve_state_of_asks hasks, ih]
    rfl

theorem exists_changes (app : Application Store) (run : List Arrival) :
    ∃ changes, List.Forall₂ (Asks app) run changes := by
  induction run with
  | nil => exact ⟨[], .nil⟩
  | cons arrival rest ih =>
    obtain ⟨change, hasks⟩ := exists_asks app arrival
    obtain ⟨changes, hrest⟩ := ih
    exact ⟨change :: changes, .cons hasks hrest⟩

/-- After any run of requests the notes are those of a list with the same changes, and whatever
comes next is served by that list. A request that is not read to its end changes nothing. -/
theorem notes_refine_list (config : Settings.Config) (run : List Arrival) :
    ∃ app, application config = .ok app ∧
      (∃ changes, List.Forall₂ (Asks app) run changes ∧
        app.stateAfter [] run = Change.applyAll changes []) ∧
      ∀ arrival,
        (∀ request, app.Reads arrival request →
          Serves app (app.stateAfter [] run) request
            (app.serve (app.stateAfter [] run) arrival)) ∧
        ((∀ request, ¬ app.Reads arrival request) →
          (app.serve (app.stateAfter [] run) arrival).state = app.stateAfter [] run) := by
  obtain ⟨changes, hchanges⟩ := exists_changes (served config) run
  exact ⟨served config, application_eq config, ⟨changes, hchanges, stateAfter_of_asks hchanges⟩,
    fun arrival => ⟨fun request => serve_serves _, Application.serve_state_of_not_reads⟩⟩

/-! One run -/

/-- A request to add a note whose text has nothing to be escaped. -/
def posting (fields : Header.Fields) (text : String) : Arrival :=
  .of .post "/notes" fields ("\x7b\"text\":\"" ++ text ++ "\"\x7d")

def removing (id : Nat) : Arrival := .of .delete ("/notes/" ++ toString id) [] ""

theorem parse_posting (h : Json.IsBare text.toList) :
    Value.parse ("\x7b\"text\":\"" ++ text ++ "\"\x7d") = .ok (.object [("text", .text text)]) := by
  have hsource : ("\x7b\"text\":\"" ++ text ++ "\"\x7d").toList = '\x7b' :: '"' ::
      ('t' :: 'e' :: 'x' :: 't' :: '"' :: ':' :: '"' :: (text.toList ++ '"' :: ['\x7d'])) := by
    simp
  have hbare : Json.IsBare ['t', 'e', 'x', 't'] := by simp [Json.IsBare]
  have hkey (rest : List Char) :
      Json.readText ('t' :: 'e' :: 'x' :: 't' :: '"' :: rest) = .ok ("text", rest) :=
    Json.readText_of_isBare hbare
  have hvalue (rest : List Char) :
      Json.readText (text.toList ++ '"' :: rest) = .ok (text, rest) := by
    rw [Json.readText_of_isBare h, String.ofList_toList]
  -- Four readers call one another: for the object, its members, the first of them and its value.
  have hfuel (cs : List Char) : 3 * (cs.length + 9) + 3 = 3 * cs.length + 26 + 4 := by omega
  have hread : Json.readDocument ("\x7b\"text\":\"" ++ text ++ "\"\x7d") =
      .ok (.object [("text", .text text)]) := by
    simp only [Json.readDocument, Json.readLeading, hsource, List.length_cons, hfuel]
    simp [Json.readValue, Json.readMembers, Json.readMember, hkey, hvalue, Json.skipSpace,
      Json.isSpace, Json.depthLimit, Json.readEnd, bind, Except.bind, pure, Except.pure]
  rw [Value.parse, hread]
  rfl

theorem adds_posting (config : Settings.Config) (fields : Header.Fields)
    (h : Json.IsBare text.toList) : Adds (served config) (posting fields text).request text := by
  have hpath : (posting fields text).request.path = "/notes" := by
    rw [posting, Arrival.path_of]
    rfl
  have hfound : ∀ strict, Table.lookup ⟨entries⟩ .post "/notes" strict =
      .route ⟨[.post], ⟨"/notes", [.literal "notes"], false⟩, create⟩ [] := by
    intro strict
    cases strict <;> rfl
  have hroute : (served config).LeadsTo (posting fields text).request "/notes" [] := by
    refine ⟨⟨[.post], ⟨"/notes", [.literal "notes"], false⟩, create⟩, ?_, rfl⟩
    rw [hpath]
    exact hfound _
  have hne : "\x7b\"text\":\"" ++ text ++ "\"\x7d" ≠ "" := by
    intro hempty
    simpa using congrArg String.toList hempty
  exact ⟨rfl, ⟨[], hroute⟩, json_of_parse Arrival.body_of hne (parse_posting h)⟩

theorem isBare_a : Json.IsBare "a".toList := by
  simp [Json.IsBare]

theorem canSendTo_served {sender : Option String} : (served {}).CanSendTo sender := by
  intro cors hcors
  cases hcors

theorem reads_posting : (served {}).Reads (posting [] "a") (posting [] "a").request :=
  Application.reads_of (by rfl) (by decide)

theorem reads_removing : (served {}).Reads (removing 0) (removing 0).request :=
  Application.reads_of (by rfl) (by decide)

theorem removes_removing : Removes (served {}) (removing 0).request 0 :=
  ⟨rfl, [("id", .integer 0)], ⟨⟨note.allowed,
    ⟨"/notes/<int:id>", [.literal "notes", .placeholder "id" .integer], false⟩, note.handle⟩,
    by rfl, rfl⟩, rfl⟩

/-- A note is added and taken away. -/
theorem notes_refine_list_of_one_note :
    ∃ app, application {} = .ok app ∧
      (app.serve [] (posting [] "a")).value.status = 201 ∧
      app.stateAfter [] [posting [] "a"] = ["a"] ∧
      (app.serve ["a"] (removing 0)).value.status = 204 ∧
      app.stateAfter [] [posting [] "a", removing 0] = [] := by
  obtain ⟨app, happ, -, hfirst⟩ := notes_refine_list {} []
  obtain ⟨app', happ', -, hsecond⟩ := notes_refine_list {} [posting [] "a"]
  cases (application_eq {}).symm.trans happ
  cases (application_eq {}).symm.trans happ'
  have hadded := ((hfirst (posting [] "a")).1 _ reads_posting).added "a"
    (adds_posting {} [] isBare_a)
  have hafter : (served {}).stateAfter [] [posting [] "a"] = ["a"] := hadded.1
  have hremoved := ((hsecond (removing 0)).1 _ reads_removing).removed 0 removes_removing
    (hafter ▸ Nat.zero_lt_one)
  rw [hafter] at hremoved
  refine ⟨served {}, rfl, (hadded.2.told canSendTo_served).1, hafter,
    (hremoved.2.told canSendTo_served).1, ?_⟩
  exact (Application.stateAfter_append [_] [_]).trans (hafter ▸ hremoved.1)

/-- A policy that lists a header whose name no field can tell. -/
def unsendable : Cors.Setting := .custom { headers := some ["a\nb"] }

theorem not_canSendTo_unsendable :
    ¬ (served { app := { cors := unsendable } }).CanSendTo (some "https://a.example") := by
  intro hc
  have hadmits : (Cors.ofOptions { headers := some ["a\nb"] }).Admits (some "https://a.example") :=
    ⟨"https://a.example", rfl, by decide, trivial⟩
  exact absurd (hc _ rfl hadmits).1 (by decide)

theorem reads_posting_from : (served { app := { cors := unsendable } }).Reads
    (posting [("origin", "https://a.example")] "a")
    (posting [("origin", "https://a.example")] "a").request :=
  Application.reads_of (by rfl) (by decide)

/-- Under such a policy a page is told of a server error though its note was added. -/
theorem added_note_goes_untold :
    ∃ app, application { app := { cors := unsendable } } = .ok app ∧
      app.Reads (posting [("origin", "https://a.example")] "a")
        (posting [("origin", "https://a.example")] "a").request ∧
      Adds app (posting [("origin", "https://a.example")] "a").request "a" ∧
      (app.serve [] (posting [("origin", "https://a.example")] "a")).value.status = 500 ∧
      (app.serve [] (posting [("origin", "https://a.example")] "a")).state = ["a"] := by
  have hadds := adds_posting { app := { cors := unsendable } } [("origin", "https://a.example")]
    isBare_a
  have hserved := serve_of_adds [] reads_posting_from hadds
  have hsender : (posting [("origin", "https://a.example")] "a").request.header? "origin" =
      some "https://a.example" := by rfl
  have hsent := hserved.2.untold (hsender ▸ not_canSendTo_unsendable)
  exact ⟨served { app := { cors := unsendable } }, application_eq _, reads_posting_from, hadds,
    congrArg Sent.status hsent, hserved.1⟩

end WebService.Notes
