import WebService.Proofs.Json.Escaped
import WebService.Proofs.Json.Written
import WebService.Proofs.Request.Rejection
import WebService.Response.Build

/-!
Values that are sent out and come back: a request whose body is the text that was written for a
value is read as that value, with its objects in key order.
-/
namespace WebService.Request

open Json (Layout Style Value)

variable {r : Request} {layout : Layout} {v : Value}

theorem json_any_of_value (h : r.value = .ok v) : r.json .any = .ok v.toDocument := by
  rw [json, h]
  rfl

/-- The text of a value is read as the value in key order. -/
theorem value_of_render (hbody : r.body = Text.octets (v.render layout)) (hwhole : v.isWhole = true)
    (hdepth : v.depth ≤ 127) : r.value = .ok v.sorted := by
  have htext : r.text = .ok (v.render layout) := by
    obtain ⟨c, cs, hrender, -⟩ := Json.exists_cons_of_isWhole hwhole layout 0
    have hne : v.render layout ≠ "" := by
      rw [Value.render, hrender]
      exact String.ofList_eq_empty_iff.not.mpr (List.cons_ne_nil c cs)
    refine text_eq_ok_iff.mpr ⟨?_, hbody.symm⟩
    intro hnil
    have hempty := Text.isEmpty_octets hne
    rw [← hbody, hnil] at hempty
    cases hempty
  rw [value, htext]
  simp only [Value.parse_render layout hwhole (Nat.lt_succ_of_le hdepth), bind, Except.bind, pure,
    Except.pure]

theorem read_of_render (hbody : r.body = Text.octets (v.render layout)) (hwhole : v.isWhole = true)
    (hdepth : v.depth ≤ 127) :
    r.value = .ok v.sorted ∧ r.json .any = .ok v.sorted.toDocument := by
  have hvalue := value_of_render hbody hwhole hdepth
  exact ⟨hvalue, json_any_of_value hvalue⟩

/-- A value of whole numbers that nests no deeper than the reader goes comes back as it was sent,
under every layout. Escaping changes its texts, each to what stands for it in HTML, and neither keys
nor numbers nor the way in which it nests. -/
theorem json_round_trip (v : Value) (style : Style) (hwhole : v.isWhole = true)
    (hdepth : v.depth ≤ 127) :
    ∃ response w, Response.jsonWith v.toDocument style = .ok response ∧
      (∀ r : Request, r.body = response.body → r.value = .ok w ∧ r.json .any = .ok w.toDocument) ∧
      w = (if style.escapeHtml then v.sorted.escaped else v.sorted) ∧
      v.sorted.escaped.outline = v.sorted.outline ∧
      v.sorted.escaped.texts = v.sorted.texts.map Json.escapeHtml ∧
      (v.isOrdered = true → v.sorted = v) := by
  have hrender : v.toDocument.render style =
      .ok ((if style.escapeHtml then v.sorted.escaped else v).render style.indent) := by
    rw [Json.Document.render, Value.toValue_toDocument hwhole]
    rfl
  rw [Response.jsonWith, hrender]
  refine ⟨_, if style.escapeHtml then v.sorted.escaped else v.sorted, rfl, ?_, rfl,
    v.sorted.outline_escaped, v.sorted.texts_escaped, Value.sorted_of_isOrdered⟩
  intro r hbody
  cases hstyle : style.escapeHtml with
  | false =>
    rw [hstyle] at hbody
    exact read_of_render hbody hwhole hdepth
  | true =>
    have hsent : v.sorted.escaped.isWhole = true :=
      Value.isWhole_escaped (Value.isWhole_sorted hwhole)
    have hnests : v.sorted.escaped.depth ≤ 127 := by
      have hescaped := v.sorted.depth_escaped_le
      have hsorted := v.depth_sorted_le
      omega
    -- Escaping keeps the keys, so that what comes back is in order as it was sent.
    have hsorted : v.sorted.escaped.sorted = v.sorted.escaped :=
      Value.sorted_of_isOrdered (Value.isOrdered_escaped v.isOrdered_sorted)
    rw [hstyle, if_pos rfl] at hbody
    have hread := read_of_render hbody hsent hnests
    rw [hsorted] at hread
    exact hread

/-- Lists down to the limit around integers at their bounds and texts of controls and marks. -/
theorem json_round_trip_of_nested :
    let inner := Value.object [("\x01\"", .list [.number (.whole (-9223372036854775808)),
      .number (.whole 18446744073709551615)]), ("<\\>", .text "\x00\t\"\\ <\x7f\u2028'&amp;>")]
    let v := Nat.repeat (fun v => Value.list [v]) 125 inner
    ∃ response w, Response.jsonWith v.toDocument ⟨some 3, true⟩ = .ok response ∧
      (∀ r : Request, r.body = response.body → r.value = .ok w ∧ r.json .any = .ok w.toDocument) ∧
      w = v.sorted.escaped ∧ v.sorted.escaped.outline = v.sorted.outline ∧
      v.sorted.escaped.texts = v.sorted.texts.map Json.escapeHtml ∧
      (v.isOrdered = true → v.sorted = v) :=
  json_round_trip _ _ (by decide +kernel) (by decide +kernel)

end WebService.Request
