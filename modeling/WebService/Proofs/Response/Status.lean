import WebService.Proofs.Chain
import WebService.Proofs.Cors.Grant
import WebService.Response.Message

/-!
Responses from their making through any number of changes: the status stays within the range that
the response was made with, and a change leaves alone what it is not about.
-/
namespace WebService.Response

/-! Ways to make a response, and to change it -/

/-- The responses that can be made. -/
inductive Made : Response → Prop where
  | new {message : String} {status : Nat} {r : Response} (h : Response.new message status = .ok r) :
    Made r
  | plainText {message : String} {status : Nat} {range : StatusRange} {r : Response}
    (h : Response.plainText message status range = .ok r) : Made r
  | ok (message : String) : Made (Response.ok message)
  | okWithStatus {message : String} {status : Nat} {r : Response}
    (h : Response.okWithStatus message status = .ok r) : Made r
  | error (message : String) : Made (Response.error message)
  | errorWithStatus {message : String} {status : Nat} {r : Response}
    (h : Response.errorWithStatus message status = .ok r) : Made r
  | notFound (message : String) : Made (Response.notFound message)
  | methodNotAllowed (allowed : List Method) : Made (Response.methodNotAllowed allowed)
  | payloadTooLarge : Made Response.payloadTooLarge
  | noContent : Made Response.noContent
  | html (markup : String) : Made (Response.html markup)
  | htmlDocument {document : Markup.Element} {r : Response}
    (h : Response.htmlDocument document = .ok r) : Made r
  | xml {text : Except Markup.Error String} {r : Response} (h : Response.xmlText text = .ok r) :
    Made r
  | json {document : Json.Document} {r : Response} (h : Response.json document = .ok r) : Made r
  | jsonWith {document : Json.Document} {style : Json.Style} {r : Response}
    (h : Response.jsonWith document style = .ok r) : Made r
  | binary (data : List UInt8) (filename : Option String) : Made (Response.binary data filename)
  | internalServerError (failure : Failure) (debug : Bool) :
    Made (Response.internalServerError failure debug)
  | message {message : Message} {r : Response} (h : message.toResponse = .ok r) : Made r
  | preflight (policy : Cors) : Made policy.preflight

/-- A change to a response. -/
inductive Step where
  | status (status : Nat)
  | header (name value : String)
  | noHeader (name : String)
  | charset (charset : Option String)
  | filename (name : String)
  | etag (value : Option String)
  | noETag
  | policy (policy : Cors) (sender : Option String)

namespace Step

/-- The response after a change; only a change of the status can fail. -/
def apply : Step → Response → Except Error Response
  | status n, r => r.withStatus n
  | header name value, r => .ok (r.setHeader name value)
  | noHeader name, r => .ok (r.removeHeader name)
  | charset value, r => .ok (r.withCharset value)
  | filename name, r => .ok (r.withFilename name)
  | etag value, r => .ok (r.withETag value)
  | noETag, r => .ok r.withoutETag
  | policy cors sender, r => .ok (cors.apply sender r).2

/-- The names of the headers that a change may touch. -/
def names : Step → List String
  | header name _ | noHeader name => [name]
  | filename _ => ["Content-Disposition"]
  | etag _ | noETag => ["ETag"]
  | policy _ _ => Cors.headerNames
  | _ => []

end Step

/-- The response after changes one after the other. -/
def after (r : Response) (steps : List Step) : Except Error Response :=
  steps.foldlM (fun r step => step.apply r) r

variable {r s : Response} {step : Step} {steps : List Step} {range : StatusRange} {status n : Nat}
  {name : String}

/-! Statuses -/

/-- Whether a status lies in a range and is one that can be sent at all. -/
def Fits (status : Nat) (range : StatusRange) : Prop :=
  (range.least ≤ status ∧ status ≤ range.most) ∧ 100 ≤ status ∧ status ≤ 599

instance : Decidable (Fits status range) := inferInstanceAs (Decidable (_ ∧ _))

theorem contains_iff_fits :
    (range.contains status && StatusRange.any.contains status) = true ↔ Fits status range := by
  simp only [StatusRange.contains, Bool.and_eq_true, decide_eq_true_iff]
  rfl

theorem checkStatus_eq_ok_iff :
    checkStatus status range = .ok n ↔ Fits status range ∧ n = status := by
  unfold checkStatus
  rw [← contains_iff_fits]
  split
  · rename_i h
    simp [h, eq_comm]
  · rename_i h
    simp [h]

theorem checkStatus_of_not_fits (h : ¬ Fits status range) :
    checkStatus status range = .error (.invalidStatus status range) :=
  if_neg (mt contains_iff_fits.mp h)

theorem withStatus_eq_ok_iff :
    r.withStatus status = .ok s ↔ Fits status r.range ∧ s = { r with status := status } := by
  simp only [withStatus, bind_eq_ok_iff, pure_eq_ok_iff, checkStatus_eq_ok_iff]
  constructor
  · rintro ⟨n, ⟨h, rfl⟩, rfl⟩
    exact ⟨h, rfl⟩
  · rintro ⟨h, rfl⟩
    exact ⟨status, ⟨h, rfl⟩, rfl⟩

theorem withStatus_of_not_fits (h : ¬ Fits status r.range) :
    r.withStatus status = .error (.invalidStatus status r.range) := by
  rw [withStatus, checkStatus_of_not_fits h]
  rfl

/-! What a response keeps -/

/-- The status fits the range, and the kind is the one that its range tells. -/
structure Sound (r : Response) : Prop where
  fits : Fits r.status r.range
  ok_iff : r.kind = .ok ↔ r.range = .success
  error_iff : r.kind = .error ↔ r.range = .fault

/-- The responses were made alike. -/
structure SameMake (r s : Response) : Prop where
  kind : r.kind = s.kind
  range : r.range = s.range
  mimetype : r.mimetype = s.mimetype
  body : r.body = s.body

theorem SameMake.refl (r : Response) : r.SameMake r := ⟨rfl, rfl, rfl, rfl⟩

theorem SameMake.trans {t : Response} (h : r.SameMake s) (h' : s.SameMake t) : r.SameMake t :=
  ⟨h.kind.trans h'.kind, h.range.trans h'.range, h.mimetype.trans h'.mimetype, h.body.trans h'.body⟩

theorem Sound.of_sameMake (hs : s.Sound) (h : r.SameMake s) (hr : Fits r.status r.range) :
    r.Sound := by
  refine ⟨hr, ?_, ?_⟩
  · rw [h.kind, h.range]
    exact hs.ok_iff
  · rw [h.kind, h.range]
    exact hs.error_iff

/-! What a change does -/

/-- All that a change does to a response, by the names of the headers that it may touch. -/
inductive Edit : List String → Response → Response → Prop where
  | status {r : Response} {n : Nat} (h : Fits n r.range) : Edit [] r { r with status := n }
  | charset {r : Response} (value : Option String) : Edit [] r (r.withCharset value)
  | set {r : Response} (name value : String) : Edit [name] r (r.setHeader name value)
  | remove {r : Response} (name : String) : Edit [name] r (r.removeHeader name)
  | policy {r : Response} (cors : Cors) (sender : Option String) :
    Edit Cors.headerNames r (cors.apply sender r).2

theorem Step.edit (h : step.apply r = .ok s) : Edit step.names r s := by
  cases step with
  | status n =>
    have hwith : r.withStatus n = .ok s := h
    obtain ⟨hfits, rfl⟩ := withStatus_eq_ok_iff.mp hwith
    exact .status hfits
  | header name value =>
    cases h
    exact .set name value
  | noHeader name =>
    cases h
    exact .remove name
  | charset value =>
    cases h
    exact .charset value
  | filename name =>
    cases h
    exact .set _ _
  | etag value =>
    cases h
    exact .set _ _
  | noETag =>
    cases h
    exact .remove _
  | policy cors sender =>
    cases h
    exact .policy cors sender

/-- A change keeps what the response was made with, and any status but one that fits. -/
theorem Edit.sameMake {names : List String} (h : Edit names r s) :
    s.SameMake r ∧ (s.status = r.status ∨ Fits s.status r.range) := by
  cases h with
  | status hfits => exact ⟨⟨rfl, rfl, rfl, rfl⟩, Or.inr hfits⟩
  | policy cors sender =>
    have hagrees := cors.apply_agreesBut sender r
    exact ⟨⟨hagrees.kind, hagrees.range, hagrees.mimetype, hagrees.body⟩, Or.inl hagrees.status⟩
  | _ => exact ⟨⟨rfl, rfl, rfl, rfl⟩, Or.inl rfl⟩

theorem Edit.sound {names : List String} (h : Edit names r s) (hr : r.Sound) : s.Sound := by
  obtain ⟨hmake, hstatus⟩ := h.sameMake
  refine hr.of_sameMake hmake ?_
  rw [hmake.range]
  rcases hstatus with hstatus | hfits
  · rw [hstatus]
    exact hr.fits
  · exact hfits

/-- A header that a change does not touch is as it was. -/
theorem Edit.header? {names : List String} (h : Edit names r s)
    (hn : isNamed names name = false) : s.header? name = r.header? name := by
  have hne : ∀ n ∈ names, Header.sameName n name = false := by
    intro n hmem
    simp only [isNamed, List.any_eq_false, Bool.not_eq_true] at hn
    rw [Header.sameName_comm]
    exact hn n hmem
  cases h with
  | set n value => exact header?_setHeader_of_ne (hne n List.mem_cons_self)
  | remove n => exact header?_removeHeader_of_ne (hne n List.mem_cons_self)
  | policy cors sender => exact (cors.apply_agreesBut sender r).header? hn
  | _ => rfl

theorem after_cons_eq_ok_iff : r.after (step :: steps) = .ok s ↔
    ∃ t, step.apply r = .ok t ∧ t.after steps = .ok s := by
  rw [after, List.foldlM_cons, bind_eq_ok_iff]
  rfl

theorem after_sound (h : r.after steps = .ok s) (hr : r.Sound) : s.Sound ∧ s.SameMake r := by
  have hstep : ∀ t step u, t.Sound ∧ t.SameMake r → Step.apply step t = .ok u →
      u.Sound ∧ u.SameMake r := by
    rintro t step u ⟨hsound, hmake⟩ hu
    exact ⟨(Step.edit hu).sound hsound, (Step.edit hu).sameMake.1.trans hmake⟩
  exact of_foldlM_eq_ok (P := fun t => t.Sound ∧ t.SameMake r) hstep ⟨hr, .refl r⟩ h

theorem after_header? (h : r.after steps = .ok s)
    (hn : ∀ step ∈ steps, isNamed step.names name = false) : s.header? name = r.header? name := by
  induction steps generalizing r with
  | nil =>
    cases h
    rfl
  | cons step steps ih =>
    obtain ⟨t, ht, hs⟩ := after_cons_eq_ok_iff.mp h
    rw [ih hs fun later hl => hn later (List.mem_cons_of_mem _ hl)]
    exact (Step.edit ht).header? (hn step List.mem_cons_self)

/-! What every response starts with -/

theorem Kind.eq_ok_iff (kind : Kind) : kind = .ok ↔ kind.range = .success := by
  cases kind <;> decide

theorem Kind.eq_error_iff (kind : Kind) : kind = .error ↔ kind.range = .fault := by
  cases kind <;> decide

/-- What a response starts with: a status that fits, and one header at most. -/
structure Fresh (r : Response) : Prop where
  sound : r.Sound
  length_headers : r.headers.length ≤ 1

section Build

variable {kind : Kind} {mimetype : String} {charset : Option String} {body : List UInt8}

theorem build_fresh (h : Fits status kind.range) :
    (build kind status mimetype charset body).Fresh :=
  ⟨⟨h, kind.eq_ok_iff, kind.eq_error_iff⟩, Nat.zero_le 1⟩

theorem setHeader_build_fresh (h : Fits status kind.range) (name value : String) :
    ((build kind status mimetype charset body).setHeader name value).Fresh :=
  ⟨(Edit.set name value).sound (build_fresh h).sound, Nat.le_refl 1⟩

end Build

theorem kindOf_eq_ok_iff : kindOf range = .ok ↔ range = .success := by
  unfold kindOf
  split
  · simp [*]
  · split
    · simp [*, StatusRange.success, StatusRange.fault]
    · simp [*]

theorem kindOf_eq_error_iff : kindOf range = .error ↔ range = .fault := by
  unfold kindOf
  split
  · simp [*, StatusRange.success, StatusRange.fault]
  · split <;> simp [*]

theorem fresh_of_plainText {message : String} (h : plainText message status range = .ok r) :
    r.Fresh := by
  obtain ⟨n, hn, hr⟩ := bind_eq_ok_iff.mp h
  obtain ⟨hfits, rfl⟩ := checkStatus_eq_ok_iff.mp hn
  cases hr
  exact ⟨⟨hfits, kindOf_eq_ok_iff, kindOf_eq_error_iff⟩, Nat.zero_le 1⟩

theorem fresh_of_xmlText {text : Except Markup.Error String} (h : xmlText text = .ok r) :
    r.Fresh := by
  unfold xmlText at h
  split at h
  · cases h
    exact build_fresh (by decide)
  · cases h

theorem fresh_of_jsonWith {document : Json.Document} {style : Json.Style}
    (h : jsonWith document style = .ok r) : r.Fresh := by
  unfold jsonWith at h
  split at h
  · cases h
    exact build_fresh (by decide)
  · cases h

theorem fresh_of_htmlDocument {document : Markup.Element} (h : htmlDocument document = .ok r) :
    r.Fresh := by
  unfold htmlDocument at h
  split at h
  · cases h
    exact build_fresh (by decide)
  · cases h

theorem fresh_of_binary (data : List UInt8) (filename : Option String) :
    (binary data filename).Fresh := by
  unfold binary
  cases filename with
  | none => exact build_fresh (by decide)
  | some name => exact setHeader_build_fresh (by decide) _ _

theorem fresh_of_toResponse {message : Message} (h : message.toResponse = .ok r) : r.Fresh := by
  obtain ⟨s, hs, hstatus⟩ := bind_eq_ok_iff.mp h
  have hfresh := fresh_of_jsonWith hs
  obtain ⟨hfits, rfl⟩ := withStatus_eq_ok_iff.mp hstatus
  exact ⟨(Edit.status hfits).sound hfresh.sound, hfresh.length_headers⟩

theorem Made.fresh (h : Made r) : r.Fresh := by
  cases h with
  | new h => exact fresh_of_plainText h
  | plainText h => exact fresh_of_plainText h
  | ok message => exact build_fresh (by decide)
  | okWithStatus h => exact fresh_of_plainText h
  | error message => exact build_fresh (by decide)
  | errorWithStatus h => exact fresh_of_plainText h
  | notFound message => exact build_fresh (by decide)
  | methodNotAllowed allowed => exact setHeader_build_fresh (by decide) _ _
  | payloadTooLarge => exact build_fresh (by decide)
  | noContent => exact build_fresh (by decide)
  | html markup => exact build_fresh (by decide)
  | htmlDocument h => exact fresh_of_htmlDocument h
  | xml h => exact fresh_of_xmlText h
  | json h => exact fresh_of_jsonWith h
  | jsonWith h => exact fresh_of_jsonWith h
  | binary data filename => exact fresh_of_binary data filename
  | internalServerError failure debug => exact build_fresh (by decide)
  | message h => exact fresh_of_toResponse h
  | preflight policy => exact setHeader_build_fresh (by decide) _ _

theorem Made.sound (h : Made r) : r.Sound := h.fresh.sound

/-- Whatever is changed of a response, its status fits the range that it was made with, which the
kind tells as well; its media type and body stay. A status that does not fit is refused by name, and
a tag made of the body is right until a change touches it. -/
theorem status_fits_after_changes (r s : Response) (steps : List Step) (hr : Made r)
    (hs : r.after steps = .ok s) :
    (s.range.least ≤ s.status ∧ s.status ≤ s.range.most) ∧ (100 ≤ s.status ∧ s.status ≤ 599) ∧
    (s.kind = .ok ↔ s.range = ⟨200, 299⟩) ∧ (s.kind = .error ↔ s.range = ⟨400, 599⟩) ∧
    s.kind = r.kind ∧ s.range = r.range ∧ s.mimetype = r.mimetype ∧ s.body = r.body ∧
    (∀ status, (s.range.least ≤ status ∧ status ≤ s.range.most) ∧ (100 ≤ status ∧ status ≤ 599) →
      s.withStatus status = .ok { s with status := status }) ∧
    (∀ status, ¬ ((s.range.least ≤ status ∧ status ≤ s.range.most) ∧
        (100 ≤ status ∧ status ≤ 599)) →
      s.withStatus status = .error (.invalidStatus status s.range) ∧
      (Error.invalidStatus status s.range).message = "status " ++ toString status ++
        " is outside the valid range " ++ toString s.range.least ++ "-" ++ toString s.range.most) ∧
    ∀ later t, (∀ step ∈ later, isNamed step.names "ETag" = false) →
      (s.withETag none).after later = .ok t → t.header? "ETag" = some t.checksum := by
  obtain ⟨hsound, hmake⟩ := after_sound hs hr.sound
  refine ⟨hsound.fits.1, hsound.fits.2, hsound.ok_iff, hsound.error_iff, hmake.kind, hmake.range,
    hmake.mimetype, hmake.body, ?_, ?_, ?_⟩
  · exact fun status h => withStatus_eq_ok_iff.mpr ⟨h, rfl⟩
  · exact fun status h => ⟨withStatus_of_not_fits h, rfl⟩
  · intro later t htouch ht
    have htag : (s.withETag none).Sound := (Edit.set _ _).sound hsound
    have hbody : t.body = s.body := (after_sound ht htag).2.body
    rw [after_header? ht htouch, checksum, hbody]
    exact header?_setHeader_self

/-- A declared range that reaches past all statuses that can be sent. -/
theorem status_fits_after_changes_of_wide_range :
    ∃ r s t : Response, plainText "gone" 404 ⟨404, 700⟩ = .ok r ∧
      r.after [.status 599, .policy Cors.permissive (some "https://a.example"), .charset none] =
        .ok s ∧
      s.range = ⟨404, 700⟩ ∧ s.kind = .plainText ∧
      s.withStatus 600 = .error (.invalidStatus 600 ⟨404, 700⟩) ∧
      (s.withETag none).after [.status 410, .noHeader "Vary", .filename "a"] = .ok t ∧
      t.header? "ETag" = some t.checksum := by
  have hmade : plainText "gone" 404 ⟨404, 700⟩ =
      .ok { ofText .plainText 404 "text/plain" "gone" with range := ⟨404, 700⟩ } := rfl
  refine ⟨_, _, _, hmade, rfl, ?_, ?_, ?_, rfl, ?_⟩
  all_goals
    obtain ⟨-, -, -, -, hkind, hrange, -, -, -, hrefused, htag⟩ :=
      status_fits_after_changes _ _
        [.status 599, .policy Cors.permissive (some "https://a.example"), .charset none]
        (.plainText hmade) rfl
  · exact hrange
  · exact hkind
  · exact (hrefused 600 (by decide)).1
  · exact htag [.status 410, .noHeader "Vary", .filename "a"] _ (by decide) rfl

end WebService.Response
