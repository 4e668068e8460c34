import Mathlib.Data.List.Nodup
import WebService.Proofs.Response.Whole

/-!
The names of the headers that go out. No header of a response is there twice, but the content type
is kept apart from the headers: one that is set as a header goes out beside it.
-/
namespace WebService.Response

variable {r s : Response} {steps : List Step} {name value : String}
  {headers : List (String × String)} {sent : Sent}

/-- The names of headers as they are compared. -/
def namesOf (headers : List (String × String)) : List String :=
  headers.map fun header => Header.lowered header.1

/-- Whether no header is there twice. -/
def HeadersApart (r : Response) : Prop := (namesOf r.headers).Nodup

/-! What setting and removing does to the names -/

theorem namesOf_cons (header : String × String) :
    namesOf (header :: headers) = Header.lowered header.1 :: namesOf headers := rfl

theorem namesOf_setIn : namesOf (setIn name value headers) =
    if Header.lowered name ∈ namesOf headers then namesOf headers
    else namesOf headers ++ [Header.lowered name] := by
  induction headers with
  | nil => rfl
  | cons header rest ih =>
    obtain ⟨n, v⟩ := header
    by_cases hn : Header.sameName n name = true
    · have he : Header.lowered n = Header.lowered name := Header.sameName_iff.mp hn
      simp [setIn, hn, namesOf_cons, he]
    · have hne : Header.lowered name ≠ Header.lowered n :=
        fun he => hn (Header.sameName_iff.mpr he.symm)
      simp only [setIn, hn, Bool.false_eq_true, if_false, namesOf_cons, ih, List.mem_cons, hne,
        false_or]
      split <;> rfl

theorem namesOf_removeFrom :
    namesOf (removeFrom name headers) = (namesOf headers).erase (Header.lowered name) := by
  induction headers with
  | nil => rfl
  | cons header rest ih =>
    obtain ⟨n, v⟩ := header
    by_cases hn : Header.sameName n name = true
    · have he : Header.lowered n = Header.lowered name := Header.sameName_iff.mp hn
      simp [removeFrom, hn, namesOf_cons, he]
    · have hne : Header.lowered n ≠ Header.lowered name := fun he => hn (Header.sameName_iff.mpr he)
      simp [removeFrom, hn, namesOf_cons, ih, hne]

/-- A header is found under each of the names, and under no other. -/
theorem mem_namesOf_iff : Header.lowered name ∈ namesOf r.headers ↔ r.header? name ≠ none := by
  simp only [namesOf, List.mem_map, header?, ne_eq, Option.map_eq_none_iff, List.find?_eq_none,
    Header.sameName_iff, not_forall, Decidable.not_not, exists_prop]

/-! Names through changes -/

theorem HeadersApart.setHeader (h : r.HeadersApart) (name value : String) :
    (r.setHeader name value).HeadersApart := by
  have hnames : namesOf (r.setHeader name value).headers = _ := namesOf_setIn
  rw [HeadersApart, hnames]
  split
  · exact h
  · rename_i hnew
    rw [← List.concat_eq_append]
    exact List.Nodup.concat hnew h

theorem HeadersApart.removeHeader (h : r.HeadersApart) (name : String) :
    (r.removeHeader name).HeadersApart := by
  have hnames : namesOf (r.removeHeader name).headers = _ := namesOf_removeFrom
  rw [HeadersApart, hnames]
  exact h.erase _

theorem HeadersApart.apply (h : r.HeadersApart) (cors : Cors) (sender : Option String) :
    (cors.apply sender r).2.HeadersApart := by
  by_cases hadmits : cors.Admits sender
  · obtain ⟨allowed, hgrant, -⟩ := Cors.apply_of_admits (r := r) hadmits
    rw [hgrant]
    exact Cors.grant_induction h fun s header _ hs => hs.setHeader header.1 header.2
  · rw [Cors.apply_of_not_admits hadmits]
    exact h

theorem Edit.headersApart {names : List String} (h : Edit names r s) (hr : r.HeadersApart) :
    s.HeadersApart := by
  cases h with
  | status _ => exact hr
  | charset _ => exact hr
  | set name value => exact hr.setHeader name value
  | remove name => exact hr.removeHeader name
  | policy cors sender => exact hr.apply cors sender

theorem after_headersApart (h : r.after steps = .ok s) (hr : r.HeadersApart) : s.HeadersApart :=
  of_foldlM_eq_ok (P := HeadersApart) (fun _ _ _ hr h => (Step.edit h).headersApart hr) hr h

theorem Made.headersApart (h : Made r) : r.HeadersApart := by
  have hlength := h.fresh.length_headers
  rw [HeadersApart]
  match hheaders : r.headers with
  | [] => exact List.nodup_nil
  | [header] => exact List.nodup_singleton _
  | _ :: _ :: _ => simp [hheaders] at hlength

/-! Names that go out -/

theorem names_outgoing : (r.outgoing.map Header.field).map (·.1) =
    (if r.mimetype = "" then [] else ["content-type"]) ++ namesOf r.headers := by
  have hfields : (r.headers.map Header.field).map (·.1) = namesOf r.headers := by
    simp [namesOf, Header.field]
  rw [map_field_outgoing, List.map_append, hfields]
  split <;> rfl

theorem mem_namesOf_type_iff :
    "content-type" ∈ namesOf r.headers ↔ r.header? "Content-Type" ≠ none := by
  have hname : Header.lowered "Content-Type" = "content-type" := by decide
  rw [← hname, mem_namesOf_iff]

/-- Under every name but one a header goes out once at most. The content type goes out for the
media type of the response, and once more if it is set as a header. -/
theorem sent_names_apart_but_type (r s : Response) (steps : List Step) (sent : Sent) (hr : Made r)
    (hs : r.after steps = .ok s) (hsent : s.toSent = (sent, [])) :
    (∀ name, name ≠ "content-type" → (sent.fields.map (·.1)).count name ≤ 1) ∧
    (sent.fields.map (·.1)).count "content-type" =
      (if s.mimetype = "" then 0 else 1) + (if s.header? "Content-Type" = none then 0 else 1) ∧
    ((sent.fields.map (·.1)).Nodup ↔ s.mimetype = "" ∨ s.header? "Content-Type" = none) := by
  have hapart : (namesOf s.headers).Nodup := after_headersApart hs hr.headersApart
  obtain ⟨-, rfl⟩ := toSent_eq_iff.mp hsent
  rw [names_outgoing]
  refine ⟨?_, ?_, ?_⟩
  · intro name hname
    have htype : (if s.mimetype = "" then [] else ["content-type"]).count name = 0 := by
      split <;> simp [hname.symm]
    rw [List.count_append, htype, Nat.zero_add]
    exact List.nodup_iff_count_le_one.mp hapart name
  · have htype : (namesOf s.headers).count "content-type" =
        if s.header? "Content-Type" = none then 0 else 1 := by
      simp only [hapart.count, mem_namesOf_type_iff, ne_eq, ite_not]
    rw [List.count_append, htype]
    by_cases hmimetype : s.mimetype = "" <;> simp [hmimetype]
  · by_cases hmimetype : s.mimetype = ""
    · simp [hmimetype, hapart]
    · simp [hmimetype, hapart, mem_namesOf_type_iff]

/-- A content type that is set as a header goes out beside that of the text. -/
theorem sent_names_apart_but_type_of_markup : ∃ s sent,
    (ok "<p>").after [.header "X-Part" "1", .header "content-type" "text/html",
      .header "x-part" "2"] = .ok s ∧
    s.toSent = (sent, []) ∧ (sent.fields.map (·.1)).count "x-part" ≤ 1 ∧
    (sent.fields.map (·.1)).count "content-type" = 2 := by
  have hsent : Response.toSent ⟨.ok, 200, .success, "text/plain", some "utf-8",
      [("X-Part", "2"), ("content-type", "text/html")], Text.octets "<p>"⟩ =
      (⟨200, [("content-type", "text/plain; charset=utf-8"), ("x-part", "2"),
        ("content-type", "text/html")], Text.octets "<p>"⟩, []) := rfl
  obtain ⟨hothers, htype, -⟩ := sent_names_apart_but_type (ok "<p>") _
    [.header "X-Part" "1", .header "content-type" "text/html", .header "x-part" "2"] _
    (.ok "<p>") rfl hsent
  exact ⟨_, _, rfl, hsent, hothers "x-part" (by decide), htype⟩

/-- A header that is set does not always take the place of the one that goes out. -/
theorem content_type_goes_out_twice : ¬ ∀ (r s : Response) (steps : List Step) (sent : Sent),
    Made r → r.after steps = .ok s → s.toSent = (sent, []) → (sent.fields.map (·.1)).Nodup := by
  intro h
  have hnodup := h (ok "x") ((ok "x").setHeader "content-type" "text/html")
    [.header "content-type" "text/html"]
    ⟨200, [("content-type", "text/plain; charset=utf-8"), ("content-type", "text/html")],
      Text.octets "x"⟩ (.ok "x") rfl rfl
  exact absurd hnodup (by decide)

end WebService.Response
