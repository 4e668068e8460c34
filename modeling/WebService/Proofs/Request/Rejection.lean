import WebService.Paging
import WebService.Proofs.Chain
import WebService.Proofs.Json.Value
import WebService.Proofs.Request.Arguments
import WebService.Proofs.Response.Sending
import WebService.Proofs.Text.Octets
import WebService.Request.Body

/-!
What cannot be read of a request is the client's mistake: the handling goes on with what was read,
or it ends with an answer that says so. Reading never fails.
-/
namespace WebService

/-- Whether a response tells the client of a mistake. -/
structure Response.BlamesClient (r : Response) : Prop where
  kind : r.kind = .error
  status : r.status = 400
  mimetype : r.mimetype = "text/plain"

theorem Response.blamesClient_error (message : String) : (Response.error message).BlamesClient :=
  ⟨rfl, rfl, rfl⟩

namespace Outcome

variable {α β : Type} {o : Outcome α} {f : α → Outcome β}

/-- Whether an outcome is a result, or else the answer that the client made a mistake. -/
def ResultOrBlame (o : Outcome α) : Prop :=
  (∃ a, o = .ok a) ∨ ∃ r : Response, o = .error (.abort r) ∧ r.BlamesClient

theorem ResultOrBlame.ok (a : α) : ResultOrBlame (.ok a) := Or.inl ⟨a, rfl⟩

theorem ResultOrBlame.reject (message : String) : (reject message : Outcome α).ResultOrBlame :=
  Or.inr ⟨_, rfl, Response.blamesClient_error message⟩

/-- Steps one after the other, each of which gives a result or blames the client. -/
theorem ResultOrBlame.bind (ho : o.ResultOrBlame) (hf : ∀ a, o = .ok a → (f a).ResultOrBlame) :
    (o >>= f : Outcome β).ResultOrBlame := by
  rcases ho with ⟨a, rfl⟩ | ⟨r, rfl, hr⟩
  · exact hf a rfl
  · exact Or.inr ⟨r, rfl, hr⟩

end Outcome

open Outcome (ResultOrBlame)

namespace Request

variable {α : Type} {r : Request} {s key : String}

/-! Arguments -/

theorem readArg_resultOrBlame (r : Request) (kind key : String) (parse? : String → Option α) :
    (r.readArg kind key parse?).ResultOrBlame := by
  unfold readArg
  split
  · exact .ok none
  · split
    · exact .ok _
    · exact .reject _

theorem getFlag_resultOrBlame (r : Request) (key : String) (default : Bool) :
    (r.getFlag key default).ResultOrBlame :=
  (readArg_resultOrBlame r _ key _).bind fun given _ => .ok (given.getD default)

theorem arg?_of_not_hasArg (h : r.hasArg key = false) : r.arg? key = none := by
  cases harg : r.arg? key with
  | none => rfl
  | some value =>
    rw [hasArg_iff.mpr ⟨value, harg⟩] at h
    cases h

theorem readArg_of_not_hasArg (h : r.hasArg key = false) (kind : String)
    (parse? : String → Option α) : r.readArg kind key parse? = .ok none := by
  rw [readArg, arg?_of_not_hasArg h]

/-! Bodies -/

theorem text_resultOrBlame (r : Request) : r.text.ResultOrBlame := by
  unfold text
  split
  · exact .reject _
  · split
    · exact .ok _
    · exact .reject _

/-- A body is text if it is not empty and the octets of a text. -/
theorem text_eq_ok_iff : r.text = .ok s ↔ r.body ≠ [] ∧ Text.octets s = r.body := by
  unfold text
  by_cases hbody : r.body = []
  · simp [hbody, Outcome.reject]
  · have hempty : r.body.isEmpty = false := by simpa using hbody
    simp only [hempty, Bool.false_eq_true, if_false]
    constructor
    · intro h
      split at h
      · rename_i read hread
        cases h
        exact ⟨hbody, Text.octets_of_ofOctets? hread⟩
      · cases h
    · rintro ⟨-, hoctets⟩
      rw [← hoctets, Text.ofOctets?_octets]

theorem value_resultOrBlame (r : Request) : r.value.ResultOrBlame := by
  refine r.text_resultOrBlame.bind fun s _ => ?_
  split
  · exact .ok _
  · exact .reject _

theorem json_resultOrBlame (r : Request) (shape : Json.Shape) : (r.json shape).ResultOrBlame := by
  refine r.value_resultOrBlame.bind fun v _ => ?_
  split
  · exact .ok _
  · exact .reject _

end Request

namespace Paging.Browser

variable {α : Type}

theorem size_resultOrBlame (b : Browser) (r : Request) : (b.size r).ResultOrBlame := by
  refine ((Request.readArg_resultOrBlame r _ _ _).bind fun _ _ => .ok _).bind fun size _ => ?_
  split
  · exact .reject _
  · exact .ok _

theorem page_resultOrBlame (b : Browser) (r : Request) : (b.page r).ResultOrBlame :=
  (Request.readArg_resultOrBlame r _ _ _).bind fun _ _ => .ok _

theorem browse_resultOrBlame (b : Browser) (r : Request) (items : List α) :
    (b.browse r items).ResultOrBlame :=
  (b.size_resultOrBlame r).bind fun _ _ => (b.page_resultOrBlame r).bind fun _ _ => .ok _

theorem pages_resultOrBlame (b : Browser) (r : Request) (items : List α) :
    (b.pages r items).ResultOrBlame :=
  (b.size_resultOrBlame r).bind fun _ _ => .ok _

/-- The page and the count of pages can both be written, whatever the values in the list are. -/
theorem respond_resultOrBlame (b : Browser) (r : Request) (items : List Json.Value) :
    (b.respond r (items.map (·.toDocument))).ResultOrBlame := by
  have hvalues : ∀ values : List Json.Value, ∃ response,
      Response.json (.list (values.map (·.toDocument))) = .ok response := by
    intro values
    obtain ⟨w, hw, -⟩ := (Json.Value.list values).exists_toValue
    rw [Json.Value.toDocument, Json.itemDocuments_eq] at hw
    exact ⟨_, Response.json_of_toValue hw⟩
  unfold respond
  split
  · exact (b.pages_resultOrBlame r _).bind fun _ _ => .ok _
  · refine (b.browse_resultOrBlame r _).bind fun page hpage => ?_
    obtain ⟨values, rfl⟩ : ∃ values : List Json.Value, page = values.map (·.toDocument) := by
      obtain ⟨size, -, hrest⟩ := bind_eq_ok_iff.mp hpage
      obtain ⟨number, -, hpart⟩ := bind_eq_ok_iff.mp hrest
      cases hpart
      exact ⟨_, by rw [← List.map_drop, ← List.map_take]⟩
    obtain ⟨response, hresponse⟩ := hvalues values
    rw [hresponse]
    exact .ok response

end Paging.Browser

/-! All together -/

/-- What a handler may ask of a request, also with one question after the other, where the answers
so far decide on the next. -/
inductive Request.Reading (r : Request) : {α : Type} → Outcome α → Prop where
  | flag (key : String) (default : Bool) : Reading r (r.getFlag key default)
  | integer (key : String) : Reading r (r.getInt key)
  | moment (key : String) : Reading r (r.getMoment key)
  | text : Reading r r.text
  | json (shape : Json.Shape) : Reading r (r.json shape)
  | page (b : Paging.Browser) : Reading r (b.page r)
  | size (b : Paging.Browser) : Reading r (b.size r)
  | browse (b : Paging.Browser) {α : Type} (items : List α) : Reading r (b.browse r items)
  | pages (b : Paging.Browser) {α : Type} (items : List α) : Reading r (b.pages r items)
  | respond (b : Paging.Browser) (items : List Json.Value) :
    Reading r (b.respond r (items.map (·.toDocument)))
  | done {α : Type} (a : α) : Reading r (.ok a)
  | next {α β : Type} {o : Outcome α} {f : α → Outcome β} (first : Reading r o)
    (rest : ∀ a, Reading r (f a)) : Reading r (o >>= f)

theorem Request.Reading.resultOrBlame {r : Request} {α : Type} {o : Outcome α}
    (h : r.Reading o) : o.ResultOrBlame := by
  induction h with
  | flag key default => exact r.getFlag_resultOrBlame key default
  | integer key => exact r.readArg_resultOrBlame _ key _
  | moment key => exact r.readArg_resultOrBlame _ key _
  | text => exact r.text_resultOrBlame
  | json shape => exact r.json_resultOrBlame shape
  | page b => exact b.page_resultOrBlame r
  | size b => exact b.size_resultOrBlame r
  | browse b items => exact b.browse_resultOrBlame r items
  | pages b items => exact b.pages_resultOrBlame r items
  | respond b items => exact b.respond_resultOrBlame r items
  | done a => exact .ok a
  | next _ _ hfirst hrest => exact hfirst.bind fun a _ => hrest a

/-- Whatever is asked of a request, it is answered or the client is told of a mistake. A body is
text exactly if it is not empty and the octets of a text, and an argument that is missing is no
mistake. -/
theorem Request.reading_never_fails (r : Request) :
    (∀ {α : Type} (o : Outcome α), r.Reading o → (∃ a, o = .ok a) ∨ ∃ response : Response,
      o = .error (.abort response) ∧ response.kind = .error ∧ response.status = 400 ∧
        response.mimetype = "text/plain") ∧
    (∀ s, r.text = .ok s ↔ r.body ≠ [] ∧ Text.octets s = r.body) ∧
    (∀ key, r.hasArg key = false → (∀ default, r.getFlag key default = .ok default) ∧
      r.getInt key = .ok none ∧ r.getMoment key = .ok none) := by
  refine ⟨fun o ho => ?_, fun s => text_eq_ok_iff, fun key hkey => ?_⟩
  · rcases ho.resultOrBlame with hok | ⟨response, hresponse, hblame⟩
    · exact Or.inl hok
    · exact Or.inr ⟨response, hresponse, hblame.kind, hblame.status, hblame.mimetype⟩
  · refine ⟨fun default => ?_, readArg_of_not_hasArg hkey _ _, readArg_of_not_hasArg hkey _ _⟩
    rw [getFlag, readArg_of_not_hasArg hkey]
    rfl

/-- A body that is no UTF-8 and a page of no items: the size is asked for first, and the text not at
all. -/
theorem Request.reading_never_fails_of_bad_size :
    let r : Request := { Request.new .get "/notes?page=-1&size=0" with body := [0xc3] }
    let b : Paging.Browser := {}
    let items := [Json.Value.text "a"].map (·.toDocument)
    let o : Outcome Response := r.getInt "id" >>= fun _ => b.respond r items >>= fun page =>
      r.text >>= fun _ => .ok page
    r.Reading o ∧ ((∃ a, o = .ok a) ∨ ∃ response : Response, o = .error (.abort response) ∧
      response.kind = .error ∧ response.status = 400 ∧ response.mimetype = "text/plain") ∧
    r.hasArg "id" = false ∧ r.getInt "id" = .ok none ∧
    o = .reject "Page size must be positive." := by
  intro r b items o
  have hreading : r.Reading o :=
    .next (.integer "id") fun _ => .next (.respond b [.text "a"]) fun page =>
      .next .text fun _ => .done page
  have hmissing : r.hasArg "id" = false := by decide
  exact ⟨hreading, r.reading_never_fails.1 o hreading, hmissing,
    (r.reading_never_fails.2.2 "id" hmissing).2.1, by rfl⟩

end WebService
