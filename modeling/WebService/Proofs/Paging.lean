import WebService.Paging
import WebService.Proofs.Chain
import WebService.Proofs.Response.Sending

/-!
Answers in pages: the numbers that a query gives, and the part of a list or the count of parts that
they select.
-/
namespace WebService.Paging

open Json (Document Value)

/-- Whether a query gives a number, by the value of its key or else by the default. -/
def Gives (request : Request) (key : String) (default n : Nat) : Prop :=
  match request.arg? key with
  | some value => Number.readUInt64 value.toList = some n
  | none => n = default

/-- The page of a list: as many items as fit, behind those of the pages before, of which there are
never more than can be counted. -/
def part {α : Type} (page size : Nat) (items : List α) : List α :=
  (items.drop (min (page * size) Number.maxUInt64)).take size

theorem part_of_length_le {α : Type} {page size : Nat} {items : List α}
    (h : items.length ≤ Number.maxUInt64) :
    part page size items = (items.drop (page * size)).take size := by
  unfold part
  by_cases hbound : page * size ≤ Number.maxUInt64
  · rw [Nat.min_eq_left hbound]
  · rw [List.drop_eq_nil_of_le (by omega), List.drop_eq_nil_of_le (by omega)]

/-- The object that tells a count of pages. -/
def PageCount.toValue (c : PageCount) : Value :=
  .object [("fullPages", .number (.whole c.fullPages)), ("remainder", .number (.whole c.remainder)),
    ("pages", .number (.whole c.pages))]

namespace Browser

variable {α : Type} {b : Browser} {request : Request} {key : String} {default n page size : Nat}
  {items : List α}

theorem number_eq_ok_iff : number request key default = .ok n ↔ Gives request key default n := by
  unfold number Request.readArg Gives
  cases request.arg? key with
  | none =>
    constructor
    · intro h
      cases h
      rfl
    · rintro rfl
      rfl
  | some value =>
    cases hn : Number.readUInt64 value.toList with
    | none => simp [hn, Request.notOfKind, Outcome.reject, bind, Except.bind]
    | some m => simp [hn, bind, Except.bind, pure, Except.pure]

theorem size_eq_ok_iff :
    b.size request = .ok n ↔ Gives request b.sizeArg b.defaultSize n ∧ 0 < n := by
  rw [size, bind_eq_ok_iff]
  constructor
  · rintro ⟨m, hm, h⟩
    split at h
    · cases h
    · rename_i hpos
      cases h
      exact ⟨number_eq_ok_iff.mp hm, Nat.pos_of_ne_zero hpos⟩
  · rintro ⟨hn, hpos⟩
    exact ⟨n, number_eq_ok_iff.mpr hn, if_neg (Nat.ne_of_gt hpos)⟩

theorem page_eq_ok_iff : b.page request = .ok n ↔ Gives request b.pageArg b.defaultPage n :=
  number_eq_ok_iff

theorem browse_of_ok (hsize : b.size request = .ok size) (hpage : b.page request = .ok page) :
    b.browse request items = .ok (part page size items) := by
  rw [browse, hsize, hpage]
  rfl

theorem pages_of_ok (hsize : b.size request = .ok size) :
    b.pages request items = .ok ⟨items.length / size, items.length % size⟩ := by
  rw [pages, hsize]
  rfl

theorem browse_of_gives (hsize : Gives request b.sizeArg b.defaultSize size) (hpos : 0 < size)
    (hpage : Gives request b.pageArg b.defaultPage page) :
    b.browse request items = .ok (part page size items) :=
  browse_of_ok (size_eq_ok_iff.mpr ⟨hsize, hpos⟩) (page_eq_ok_iff.mpr hpage)

theorem pages_of_gives (hsize : Gives request b.sizeArg b.defaultSize size) (hpos : 0 < size) :
    b.pages request items = .ok ⟨items.length / size, items.length % size⟩ :=
  pages_of_ok (size_eq_ok_iff.mpr ⟨hsize, hpos⟩)

/-! Responses -/

theorem toItems_map_text (texts : List String) :
    Document.toItems (texts.map .text) = .ok (texts.map .text) := by
  induction texts with
  | nil => rfl
  | cons text rest ih =>
    simp [Document.toItems, Document.toValue, ih, bind, Except.bind, pure, Except.pure]

variable {texts : List String}

theorem respond_of_page (hinfo : b.info request = false)
    (hsize : Gives request b.sizeArg b.defaultSize size) (hpos : 0 < size)
    (hpage : Gives request b.pageArg b.defaultPage page) :
    b.respond request (texts.map .text) =
      .ok (Response.ofValue (.list ((part page size texts).map .text))) := by
  have hbrowse : b.browse request (texts.map Document.text) =
      .ok ((part page size texts).map Document.text) := by
    rw [browse_of_gives hsize hpos hpage, part, part, List.map_take, List.map_drop]
  have hvalue : (Document.list ((part page size texts).map .text)).toValue =
      .ok (.list ((part page size texts).map .text)) := by
    rw [Document.toValue, toItems_map_text]
    rfl
  simp [respond, hinfo, hbrowse, Response.json_of_toValue hvalue, Outcome.ofError, bind,
    Except.bind]

theorem respond_of_info (hinfo : b.info request = true)
    (hsize : Gives request b.sizeArg b.defaultSize size) (hpos : 0 < size) :
    b.respond request (texts.map .text) =
      .ok (Response.ofValue
        (PageCount.toValue ⟨texts.length / size, texts.length % size⟩)) := by
  have hvalue : (PageCount.toDocument ⟨texts.length / size, texts.length % size⟩).toValue =
      .ok (PageCount.toValue ⟨texts.length / size, texts.length % size⟩) := rfl
  simp [respond, hinfo, pages_of_gives hsize hpos, List.length_map, Response.json_of_toValue hvalue,
    Outcome.ofError, bind, Except.bind]

end Browser

end WebService.Paging
