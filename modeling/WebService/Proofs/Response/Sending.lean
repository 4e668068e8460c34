import Mathlib.Data.List.Induction
import WebService.Proofs.Chain
import WebService.Proofs.Cors.Grant
import WebService.Response.Wire

/-!
Sending a response: all of it if every header can be sent, and a plain server error otherwise.
-/
namespace WebService

/-- Whether a header can be sent: its name is a token, and its value holds no controls. -/
def Header.CanSend (header : String × String) : Prop :=
  isName header.1 = true ∧ isValue header.2 = true

/-- The field that a header is sent as. -/
def Header.field (header : String × String) : String × String := (lowered header.1, header.2)

/-- Whether each of the headers finds fewer names before it than fields may have between them. -/
def Header.HasRoom (headers : List (String × String)) : Prop :=
  ∀ n < headers.length, (Fields.names ((headers.take n).map field)).length < Fields.capacity

namespace Header

variable {headers : List (String × String)} {header : String × String} {fields more : Fields}
  {name value : String}

theorem length_eraseDups_le {α : Type} [BEq α] : ∀ l : List α, l.eraseDups.length ≤ l.length
  | [] => Nat.le_refl _
  | a :: rest => by
    have hfilter := List.length_filter_le (fun b => !b == a) rest
    have hrest := length_eraseDups_le (rest.filter fun b => !b == a)
    rw [List.eraseDups_cons, List.length_cons, List.length_cons]
    omega
termination_by l => l.length
decreasing_by exact Nat.lt_succ_of_le hfilter

theorem Fields.length_names_le (fields : Fields) : fields.names.length ≤ fields.length := by
  have hnames := length_eraseDups_le (fields.map (·.1))
  rwa [List.length_map] at hnames

theorem Fields.isFull_iff : fields.isFull = true ↔ capacity ≤ fields.names.length := by
  simp only [isFull, Bool.and_eq_true, decide_eq_true_eq]
  constructor
  · rintro ⟨-, hnames⟩
    exact hnames
  · intro hnames
    exact ⟨Nat.le_trans hnames fields.length_names_le, hnames⟩

theorem Fields.append_eq_ok_iff : fields.append name value = .ok more ↔
    CanSend (name, value) ∧ fields.names.length < capacity ∧
      more = fields ++ [field (name, value)] := by
  unfold Fields.append
  split
  · rename_i hname
    have hbad : isName name = false := by simpa using hname
    simp [CanSend, hbad]
  · rename_i hname
    split
    · rename_i hvalue
      have hbad : isValue value = false := by simpa using hvalue
      simp [CanSend, hbad]
    · rename_i hvalue
      have hsend : CanSend (name, value) := ⟨by simpa using hname, by simpa using hvalue⟩
      split
      · rename_i hfull
        have hnames := isFull_iff.mp hfull
        simp [Nat.not_lt.mpr hnames]
      · rename_i hroom
        have hnames : fields.names.length < capacity := Nat.lt_of_not_le (mt isFull_iff.mpr hroom)
        simp [hsend, hnames, field, eq_comm]

theorem hasRoom_nil : HasRoom [] := by
  intro n hn
  exact absurd hn (Nat.not_lt_zero n)

theorem hasRoom_concat : HasRoom (headers ++ [header]) ↔
    HasRoom headers ∧ (Fields.names (headers.map field)).length < Fields.capacity := by
  constructor
  · intro h
    refine ⟨?_, ?_⟩
    · intro n hn
      have hn' := h n (by rw [List.length_append]; omega)
      rwa [List.take_append_of_le_length (Nat.le_of_lt hn)] at hn'
    · have hall := h headers.length (by simp)
      rwa [List.take_left] at hall
  · rintro ⟨hrest, hlast⟩ n hn
    rw [List.length_append, List.length_singleton] at hn
    rcases Nat.lt_succ_iff_lt_or_eq.mp hn with hn | rfl
    · rw [List.take_append_of_le_length (Nat.le_of_lt hn)]
      exact hrest n hn
    · rwa [List.take_left]

theorem hasRoom_of_length_le (h : headers.length ≤ Fields.capacity) : HasRoom headers := by
  intro n hn
  have hnames := Fields.length_names_le ((headers.take n).map field)
  rw [List.length_map, List.length_take] at hnames
  omega

end Header

namespace Response

variable {r : Response} {sent : Sent} {name value : String} {headers : List (String × String)}
  {header : String × String} {fields : Header.Fields}

/-! What becomes of the headers -/

theorem fieldsOf_concat : fieldsOf (headers ++ [header]) =
    fieldsOf headers >>= fun fields => Header.Fields.append fields header.1 header.2 := by
  rw [fieldsOf, List.foldlM_append]
  simp [fieldsOf]

/-- Headers make fields if each of them can be sent and has room behind those before it. -/
theorem fieldsOf_eq_ok_iff : fieldsOf headers = .ok fields ↔
    (∀ header ∈ headers, Header.CanSend header) ∧ Header.HasRoom headers ∧
      fields = headers.map Header.field := by
  -- the fields grow at their end, so the induction is on the last header
  induction headers using List.reverseRecOn generalizing fields with
  | nil => simp [fieldsOf, pure_eq_ok_iff, Header.hasRoom_nil]
  | append_singleton headers header ih =>
    simp only [fieldsOf_concat, bind_eq_ok_iff, Header.Fields.append_eq_ok_iff, ih,
      Header.hasRoom_concat, List.forall_mem_append, List.forall_mem_singleton, List.map_append]
    constructor
    · rintro ⟨earlier, ⟨hall, hroom, rfl⟩, hsend, hlast, rfl⟩
      exact ⟨⟨hall, hsend⟩, ⟨hroom, hlast⟩, rfl⟩
    · rintro ⟨⟨hall, hsend⟩, ⟨hroom, hlast⟩, rfl⟩
      exact ⟨_, ⟨hall, hroom, rfl⟩, hsend, hlast, rfl⟩

/-- Whether the content type and the headers can be sent together. -/
structure HeadersFit (r : Response) : Prop where
  type : r.mimetype ≠ "" → Header.isValue r.contentType = true
  headers : ∀ header ∈ r.headers, Header.CanSend header
  room : Header.HasRoom r.outgoing

theorem headersFit_iff : r.HeadersFit ↔
    (∀ header ∈ r.outgoing, Header.CanSend header) ∧ Header.HasRoom r.outgoing := by
  have hname : Header.isName "Content-Type" = true := by decide
  have houtgoing : (∀ header ∈ r.outgoing, Header.CanSend header) ↔
      (r.mimetype ≠ "" → Header.isValue r.contentType = true) ∧
        ∀ header ∈ r.headers, Header.CanSend header := by
    unfold outgoing
    split
    · rename_i hmimetype
      simp [String.isEmpty_iff.mp hmimetype]
    · rename_i hmimetype
      have hne : r.mimetype ≠ "" := fun he => hmimetype (String.isEmpty_iff.mpr he)
      simp [Header.CanSend, hname, hne]
  rw [houtgoing]
  constructor
  · rintro ⟨htype, hheaders, hroom⟩
    exact ⟨⟨htype, hheaders⟩, hroom⟩
  · rintro ⟨⟨htype, hheaders⟩, hroom⟩
    exact ⟨htype, hheaders, hroom⟩

/-! What becomes of the response -/

/-- Whether a response can be sent. -/
structure CanSend (r : Response) : Prop where
  status : writable.contains r.status = true
  headers : r.HeadersFit

theorem assemble_eq_ok_iff : r.assemble = .ok sent ↔
    r.CanSend ∧ sent = ⟨r.status, r.outgoing.map Header.field, r.body⟩ := by
  unfold assemble
  split
  · rename_i hstatus
    have hno : ¬ r.CanSend := by
      intro h
      rw [h.status] at hstatus
      cases hstatus
    simp [hno]
  · rename_i hstatus
    have hwritable : writable.contains r.status = true := by simpa using hstatus
    split
    · rename_i fields hfields
      obtain ⟨hall, hroom, rfl⟩ := fieldsOf_eq_ok_iff.mp hfields
      have hsend : r.CanSend := ⟨hwritable, headersFit_iff.mpr ⟨hall, hroom⟩⟩
      simp [hsend, eq_comm]
    · rename_i fault hfault
      have hno : ¬ r.CanSend := by
        intro h
        obtain ⟨hall, hroom⟩ := headersFit_iff.mp h.headers
        have hfields := fieldsOf_eq_ok_iff.mpr ⟨hall, hroom, rfl⟩
        rw [hfault] at hfields
        cases hfields
      simp [hno]

/-- A response that can be sent goes out whole, and nothing is logged. -/
theorem toSent_of_canSend (h : r.CanSend) :
    r.toSent = (⟨r.status, r.outgoing.map Header.field, r.body⟩, []) := by
  rw [toSent, assemble_eq_ok_iff.mpr ⟨h, rfl⟩]

/-- Nothing goes out of a response that cannot be sent, and its fault is logged. -/
theorem toSent_of_not_canSend (h : ¬ r.CanSend) : ∃ fault, r.assemble = .error fault ∧
    r.toSent = (fallback,
      [.error ("Failed to build " ++ toString r.status ++ " response: " ++ fault.message)]) := by
  cases hr : r.assemble with
  | ok sent => exact absurd (assemble_eq_ok_iff.mp hr).1 h
  | error fault => exact ⟨fault, rfl, by rw [toSent, hr]⟩

theorem toSent_eq_iff : r.toSent = (sent, []) ↔
    r.CanSend ∧ sent = ⟨r.status, r.outgoing.map Header.field, r.body⟩ := by
  by_cases h : r.CanSend
  · simp [toSent_of_canSend h, h, eq_comm]
  · obtain ⟨fault, -, hsent⟩ := toSent_of_not_canSend h
    simp [hsent, h]

theorem not_canSend_of_mem (hm : header ∈ r.outgoing) (h : ¬ Header.CanSend header) :
    ¬ r.CanSend := by
  intro hr
  exact h ((headersFit_iff.mp hr.headers).1 header hm)

/-! Responses that can be sent -/

/-- Whether a response can be sent by itself, with room for the headers of a policy. -/
structure IsSendable (r : Response) : Prop where
  status : writable.contains r.status = true
  headers : ∀ header ∈ r.outgoing, Header.CanSend header
  room : r.outgoing.length + Cors.headerNames.length ≤ Header.Fields.capacity

/-- The response that a value makes as JSON text. -/
def ofValue (v : Json.Value) : Response :=
  build .json 200 "application/json" none (Text.octets v.compact)

theorem json_of_toValue {document : Json.Document} {v : Json.Value}
    (h : document.toValue = .ok v) : json document = .ok (ofValue v) := by
  simp [json, jsonWith, Json.Document.render, h, bind, Except.bind, pure, Except.pure, ofValue,
    Json.Value.compact]

theorem outgoing_ok : (ok value).outgoing = [("Content-Type", "text/plain; charset=utf-8")] := by
  have hcharset : namesCharset "text/plain" = false := by decide
  have htype : (ok value).contentType = "text/plain; charset=utf-8" := by
    simp only [contentType, ok, ofText, build, hcharset]
    decide
  rw [← htype]
  rfl

theorem isSendable_ok : (ok value).IsSendable := by
  refine ⟨(by decide : writable.contains 200 = true), ?_, ?_⟩
  · rw [outgoing_ok, List.forall_mem_singleton]
    exact ⟨by decide, by decide⟩
  · rw [outgoing_ok]
    decide

theorem isSendable_of_json {status : Nat} {range : StatusRange} {body : List UInt8}
    (hstatus : writable.contains status = true) :
    IsSendable ⟨.json, status, range, "application/json", none, [], body⟩ := by
  have houtgoing : outgoing ⟨.json, status, range, "application/json", none, [], body⟩ =
      [("Content-Type", "application/json")] := rfl
  refine ⟨hstatus, ?_, ?_⟩
  · rw [houtgoing, List.forall_mem_singleton]
    exact ⟨by decide, by decide⟩
  · rw [houtgoing]
    decide

theorem isSendable_noContent : noContent.IsSendable := by
  have houtgoing : noContent.outgoing = [] := rfl
  refine ⟨by decide, ?_, ?_⟩
  · rw [houtgoing]
    exact List.forall_mem_nil _
  · rw [houtgoing]
    decide

/-! Headers that are set -/

theorem mem_setIn (h : header ∈ setIn name value headers) :
    header ∈ headers ∨ (header.2 = value ∧ (header.1 = name ∨ ∃ v, (header.1, v) ∈ headers)) := by
  induction headers with
  | nil =>
    have he : header = (name, value) := by simpa [setIn] using h
    exact Or.inr ⟨by rw [he], Or.inl (by rw [he])⟩
  | cons first rest ih =>
    obtain ⟨n, v⟩ := first
    rw [setIn] at h
    split at h
    · rcases List.mem_cons.mp h with rfl | h
      · exact Or.inr ⟨rfl, Or.inr ⟨v, List.mem_cons_self⟩⟩
      · exact Or.inl (List.mem_cons_of_mem _ h)
    · rcases List.mem_cons.mp h with rfl | h
      · exact Or.inl List.mem_cons_self
      · rcases ih h with h | ⟨hvalue, hname | ⟨w, hw⟩⟩
        · exact Or.inl (List.mem_cons_of_mem _ h)
        · exact Or.inr ⟨hvalue, Or.inl hname⟩
        · exact Or.inr ⟨hvalue, Or.inr ⟨w, List.mem_cons_of_mem _ hw⟩⟩

theorem length_setIn_le : (setIn name value headers).length ≤ headers.length + 1 := by
  induction headers with
  | nil => exact Nat.le_refl _
  | cons first rest ih =>
    obtain ⟨n, v⟩ := first
    rw [setIn]
    split
    · exact Nat.le_succ _
    · exact Nat.succ_le_succ ih

theorem length_foldl_setHeader_le :
    (headers.foldl (fun r header => r.setHeader header.1 header.2) r).headers.length ≤
      r.headers.length + headers.length := by
  induction headers generalizing r with
  | nil => exact Nat.le_refl _
  | cons header rest ih =>
    have hfirst : (r.setHeader header.1 header.2).headers.length ≤ r.headers.length + 1 :=
      length_setIn_le
    have hrest := ih (r := r.setHeader header.1 header.2)
    rw [List.foldl_cons, List.length_cons]
    omega

/-- What is found under a name is the value of one of the headers. -/
theorem mem_headers_of_header? (h : r.header? name = some value) :
    ∃ n, (n, value) ∈ r.headers := by
  obtain ⟨header, hfind, rfl⟩ := Option.map_eq_some_iff.mp h
  exact ⟨header.1, List.mem_of_find?_eq_some hfind⟩

end Response

end WebService
