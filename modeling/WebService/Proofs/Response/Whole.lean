import WebService.Proofs.Response.Sending
import WebService.Proofs.Response.Status

/-!
What goes out of a response, however it was made and changed: all of it, or nothing if one of its
headers cannot be sent. Its status is never what keeps it back.
-/
namespace WebService.Response

variable {r s : Response} {steps : List Step}

/-- Every status that fits a range can be written. -/
theorem Sound.writable (h : r.Sound) : Response.writable.contains r.status = true := by
  obtain ⟨-, hleast, hmost⟩ := h.fits
  simp only [StatusRange.contains, Bool.and_eq_true, decide_eq_true_eq]
  exact ⟨hleast, Nat.le_trans hmost (by decide)⟩

theorem Sound.canSend_iff (h : r.Sound) : r.CanSend ↔ r.HeadersFit := by
  constructor
  · exact CanSend.headers
  · intro hheaders
    exact ⟨h.writable, hheaders⟩

theorem Sound.assemble_ne_status (h : r.Sound) : r.assemble ≠ .error .status := by
  intro hstatus
  unfold assemble at hstatus
  rw [h.writable, Bool.not_true, if_neg Bool.false_ne_true] at hstatus
  split at hstatus <;> cases hstatus

/-- The fields that go out: the content type of a response that has one, and the headers. -/
theorem map_field_outgoing : r.outgoing.map Header.field =
    (if r.mimetype = "" then [] else [("content-type", r.contentType)]) ++
      r.headers.map Header.field := by
  have hname : Header.lowered "Content-Type" = "content-type" := by decide
  unfold outgoing
  by_cases hmimetype : r.mimetype = ""
  · simp [hmimetype]
  · simp [hmimetype, Header.field, hname]

/-- A response goes out with its status, its content type, each of its headers and its body if each
header can be sent and has room. Otherwise a plain server error goes out with no header at all, and
one line is logged, about a header and never about the status. -/
theorem sent_whole_or_not_at_all (r s : Response) (steps : List Step) (hr : Made r)
    (hs : r.after steps = .ok s) :
    (s.HeadersFit → s.toSent =
      (⟨s.status, (if s.mimetype = "" then [] else [("content-type", s.contentType)]) ++
        s.headers.map Header.field, s.body⟩, [])) ∧
    (¬ s.HeadersFit → ∃ fault : Header.Fault, s.assemble = .error (.header fault) ∧
      s.toSent = (⟨500, [], Text.octets "Internal Server Error."⟩,
        [.error ("Failed to build " ++ toString s.status ++ " response: " ++ fault.message)])) ∧
    s.assemble ≠ .error .status := by
  have hsound : s.Sound := (after_sound hs hr.sound).1
  refine ⟨?_, ?_, hsound.assemble_ne_status⟩
  · intro hfit
    rw [toSent_of_canSend (hsound.canSend_iff.mpr hfit), map_field_outgoing]
  · intro hfit
    obtain ⟨fault, hfault, hsent⟩ := toSent_of_not_canSend (mt hsound.canSend_iff.mp hfit)
    cases fault with
    | status => exact absurd hfault hsound.assemble_ne_status
    | header fault => exact ⟨fault, hfault, hsent⟩

/-- A file name with a quote in it can be sent, one with a line break cannot. -/
theorem sent_whole_or_not_at_all_of_filename : ∃ s t : Response,
    (ok "hi").after [.status 202, .filename "a\"b"] = .ok s ∧
    s.toSent = (⟨202, [("content-type", "text/plain; charset=utf-8"),
      ("content-disposition", "attachment; filename=\"a\\\"b\"")], Text.octets "hi"⟩, []) ∧
    (ok "hi").after [.status 202, .filename "a\nb"] = .ok t ∧
    t.toSent.1 = ⟨500, [], Text.octets "Internal Server Error."⟩ := by
  have hfit : HeadersFit { ok "hi" with
      status := 202, headers := [("Content-Disposition", "attachment; filename=\"a\\\"b\"")] } := by
    refine ⟨fun _ => by decide, ?_, Header.hasRoom_of_length_le (by decide)⟩
    rw [List.forall_mem_singleton]
    exact ⟨by decide, by decide⟩
  have hunfit : ¬ HeadersFit { ok "hi" with
      status := 202, headers := [("Content-Disposition", "attachment; filename=\"a\nb\"")] } := by
    intro h
    exact absurd (h.headers _ List.mem_cons_self).2 (by decide)
  obtain ⟨hwhole, -⟩ := sent_whole_or_not_at_all (ok "hi") _ [.status 202, .filename "a\"b"]
    (.ok "hi") rfl
  obtain ⟨-, hnothing, -⟩ := sent_whole_or_not_at_all (ok "hi") _ [.status 202, .filename "a\nb"]
    (.ok "hi") rfl
  obtain ⟨fault, -, hsent⟩ := hnothing hunfit
  exact ⟨_, _, rfl, (hwhole hfit).trans rfl, rfl, congrArg Prod.fst hsent⟩

end WebService.Response
