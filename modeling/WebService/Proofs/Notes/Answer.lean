import WebService.Proofs.Json.Record
import WebService.Proofs.Notes.Change
import WebService.Proofs.Paging
import WebService.Proofs.Text.Octets

/-!
What the handlers of notes come to: an answer for a note that is added, taken away or shown, or for
a page of them; where they come to no such answer, the notes stay as they are.
-/
namespace WebService

namespace Notes

open Json (Document Value Shape)
open Paging (Gives PageCount)

variable {store : Store} {request : Request} {text : String} {id page size : Nat}
  {v : Value} {document : Document}

/-! Notes to be added -/

theorem read_text_eq_ok (h : Shape.text.read v = .ok document) :
    ∃ text, document = .text text := by
  cases v <;> simp only [Shape.read, reduceCtorEq, Except.ok.injEq] at h
  exact ⟨_, h.symm⟩

/-- Data of the shape of a new note is a record of its text, whether it was given by members or as a
list. -/
theorem read_newNoteShape (h : newNoteShape.read v = .ok document) :
    ∃ text, document = .record [("text", .text text)] := by
  obtain ⟨entries, rfl, hentries⟩ := Shape.read_record_eq_ok (by simp) h
  obtain ⟨⟨key, value⟩, rest, hfills, hrest, rfl⟩ := List.forall₂_cons_left_iff.mp hentries
  cases hrest
  obtain ⟨rfl, ⟨v, hread⟩ | habsent⟩ := hfills
  · obtain ⟨text, rfl⟩ := read_text_eq_ok hread
    exact ⟨text, rfl⟩
  · cases habsent

theorem newText_eq_ok_iff : newText request = .ok text ↔
    request.json newNoteShape = .ok (.record [("text", .text text)]) := by
  constructor
  · intro h
    obtain ⟨document, hjson, htext⟩ := bind_eq_ok_iff.mp h
    obtain ⟨v, -, hread⟩ := bind_eq_ok_iff.mp hjson
    split at hread
    · rename_i document' hshape
      cases hread
      obtain ⟨given, rfl⟩ := read_newNoteShape hshape
      cases htext
      exact hjson
    · cases hread
  · intro h
    rw [newText, h]
    rfl

/-- A body that is the text of an object with the text of a note. -/
theorem json_of_parse {source : String} (hbody : request.body = Text.octets source)
    (hne : source ≠ "") (hparse : Value.parse source = .ok (.object [("text", .text text)])) :
    request.json newNoteShape = .ok (.record [("text", .text text)]) := by
  have hsource : request.text = .ok source := by
    simp [Request.text, hbody, Text.isEmpty_octets hne, Text.ofOctets?_octets]
  have hvalue : request.value = .ok (.object [("text", .text text)]) := by
    simp [Request.value, hsource, hparse, bind, Except.bind, pure, Except.pure]
  rw [Request.json, hvalue]
  rfl

/-- The object that tells the number of a new note. -/
def createdValue (id : Nat) : Value :=
  .object [("id", .number (.whole id)), ("message", .text "Note created.")]

/-- The answer to a note that was added. -/
def created (id : Nat) : Response :=
  ⟨.json, 201, .any, "application/json", none, [], Text.octets (createdValue id).compact⟩

theorem toResponse_created :
    ((Message.new "Note created." 201).field "id" (Json.Value.ofNat id)).toResponse =
      .ok (created id) := rfl

theorem create_of_json (h : request.json newNoteShape = .ok (.record [("text", .text text)])) :
    create store request = ⟨.ok (created store.length), store ++ [text], []⟩ := by
  simp only [create, newText_eq_ok_iff.mpr h, toResponse_created]
  rfl

theorem create_state
    (h : ∀ text, request.json newNoteShape ≠ .ok (.record [("text", .text text)])) :
    (create store request).state = store := by
  unfold create
  cases hn : newText request with
  | error interruption => rfl
  | ok text => exact absurd (newText_eq_ok_iff.mp hn) (h text)

/-! Notes with a number -/

theorem noteId_eq_ok_iff :
    noteId request = .ok id ↔ request.vars.lookup "id" = some (.integer id) := by
  unfold noteId Request.varInt? Request.var?
  cases request.vars.lookup "id" with
  | none => simp
  | some captured =>
    cases captured with
    | integer value =>
      cases value with
      | ofNat n =>
        constructor
        · intro h
          cases h
          rfl
        · intro h
          cases h
          rfl
      | negSucc n => simp [Route.Captured.asInt?]
    | _ => simp [Route.Captured.asInt?]

theorem get_of_getElem? (hid : noteId request = .ok id) (h : store[id]? = some text) :
    get store request = .ok (Response.ok text) := by
  simp [get, hid, h, bind, Except.bind, pure, Except.pure]

theorem delete_of_lt (hid : noteId request = .ok id) (h : id < store.length) :
    delete store request = ⟨.ok Response.noContent, store.eraseIdx id, []⟩ := by
  simp [delete, hid, h]

theorem delete_state (hid : noteId request = .ok id) :
    (delete store request).state = store.eraseIdx id := by
  by_cases h : id < store.length
  · rw [delete_of_lt hid h]
  · simp [delete, hid, h, List.eraseIdx_of_length_le (Nat.not_lt.mp h)]

theorem delete_state_of_error (h : ∀ id, noteId request ≠ .ok id) :
    (delete store request).state = store := by
  unfold delete
  cases hid : noteId request with
  | error interruption => rfl
  | ok id => exact absurd hid (h id)

theorem handle_note_of_get (h : request.method = .get ∨ request.method = .head) :
    note.handle store request = ⟨get store request, store, []⟩ := by
  rcases h with h | h <;> rw [Resource.handle, h] <;> rfl

theorem handle_note_of_delete (h : request.method = .delete) :
    note.handle store request = delete store request := by
  rw [Resource.handle, h]
  rfl

theorem handle_note_state (h : request.method ≠ .delete) :
    (note.handle store request).state = store := by
  unfold Resource.handle
  split
  · rename_i handler hh
    simp only [Resource.handler?, note] at hh
    split at hh
    · cases hh
      rfl
    · split at hh
      · cases hh
        rfl
      · simp at hh
  · rfl

/-! Pages of notes -/

theorem list_of_page (hinfo : request.hasArg "pages" = false) (hsize : Gives request "size" 10 size)
    (hpos : 0 < size) (hpage : Gives request "page" 0 page) :
    list store request =
      .ok (Response.ofValue (.list ((Paging.part page size store).map .text))) :=
  Paging.Browser.respond_of_page hinfo hsize hpos hpage

theorem list_of_info (hinfo : request.hasArg "pages" = true) (hsize : Gives request "size" 10 size)
    (hpos : 0 < size) :
    list store request = .ok (Response.ofValue
      (PageCount.toValue ⟨store.length / size, store.length % size⟩)) :=
  Paging.Browser.respond_of_info hinfo hsize hpos

end Notes

end WebService
