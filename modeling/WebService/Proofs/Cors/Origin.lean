import WebService.Proofs.Cors.Grant

/-!
Whom a setting gives access: an origin that it lists, or every one if it has no list or an asterisk
in it; and what an origin that has access is told.
-/
namespace WebService.Cors

open Response

variable {c : Cors} {o : Options} {allowed origin : String} {sender : Option String} {r : Response}

/-- Whether a setting gives access to every origin. -/
def Options.IsOpen (o : Options) : Prop :=
  o.origins = none ∨ ∃ list, o.origins = some list ∧ "*" ∈ list

/-- Whether a setting lists an origin. -/
def Options.Lists (o : Options) (origin : String) : Prop :=
  ∃ list, o.origins = some list ∧ origin ∈ list

/-! The policy of a setting -/

theorem origins_of_isOpen (h : o.IsOpen) : (ofOptions o).origins = .any := by
  rcases h with hnone | ⟨list, hlist, hmem⟩
  · simp [ofOptions, hnone, originsOf]
  · simp [ofOptions, hlist, originsOf, hmem]

theorem origins_of_not_isOpen (h : ¬ o.IsOpen) :
    ∃ list, o.origins = some list ∧ "*" ∉ list ∧ (ofOptions o).origins = .only list := by
  cases hlist : o.origins with
  | none => exact absurd (Or.inl hlist) h
  | some list =>
    have hmem : "*" ∉ list := fun hm => h (Or.inr ⟨list, hlist, hm⟩)
    exact ⟨list, rfl, hmem, by simp [ofOptions, hlist, originsOf, hmem]⟩

theorem allows_ofOptions_iff : (ofOptions o).Allows origin ↔ o.IsOpen ∨ o.Lists origin := by
  by_cases ho : o.IsOpen
  · simp [Allows, origins_of_isOpen ho, ho]
  · obtain ⟨list, hlist, -, horigins⟩ := origins_of_not_isOpen ho
    simp [Allows, horigins, ho, Options.Lists, hlist]

theorem admits_ofOptions_iff : (ofOptions o).Admits sender ↔
    ∃ origin, sender = some origin ∧ origin ≠ "" ∧ (o.IsOpen ∨ o.Lists origin) := by
  simp only [Admits, allows_ofOptions_iff]

/-- An origin that has access is told an asterisk, or its own name, which then is no asterisk. -/
theorem allowOrigin?_ofOptions (h : (ofOptions o).allowOrigin? origin = some allowed) :
    o.IsOpen ∧ allowed = "*" ∨ ¬ o.IsOpen ∧ allowed = origin ∧ allowed ≠ "*" := by
  by_cases ho : o.IsOpen
  · simp only [allowOrigin?, origins_of_isOpen ho, Option.some.injEq] at h
    exact Or.inl ⟨ho, h.symm⟩
  · obtain ⟨list, -, hstar, horigins⟩ := origins_of_not_isOpen ho
    simp only [allowOrigin?, horigins, List.contains_iff_mem, Option.ite_none_right_eq_some,
      Option.some.injEq] at h
    obtain ⟨hmem, rfl⟩ := h
    exact Or.inr ⟨ho, rfl, fun he => hstar (he ▸ hmem)⟩

/-! Verdicts -/

/-- All that a policy can do: the headers are added for an origin that it lets in, and else nothing
is changed. -/
theorem apply_cases (c : Cors) (sender : Option String) (r : Response) :
    (sender = none ∨ sender = some "") ∧ c.apply sender r = (.noOrigin, r) ∨
      ∃ origin, sender = some origin ∧ origin ≠ "" ∧
        (¬ c.Allows origin ∧ c.apply sender r = (.unauthorized origin, r) ∨
          c.Allows origin ∧ ∃ allowed, c.allowOrigin? origin = some allowed ∧
            c.apply sender r = (.applied, c.grant allowed r)) := by
  cases sender with
  | none => exact Or.inl ⟨Or.inl rfl, rfl⟩
  | some origin =>
    by_cases hne : origin = ""
    · subst hne
      exact Or.inl ⟨Or.inr rfl, rfl⟩
    · refine Or.inr ⟨origin, rfl, hne, ?_⟩
      cases hallowed : c.allowOrigin? origin with
      | none =>
        have hfilter : (some origin).filter (fun o => !o.isEmpty) = some origin := by simp [hne]
        refine Or.inl ⟨allowOrigin?_eq_none_iff.mp hallowed, ?_⟩
        simp [apply, hfilter, hallowed]
      | some allowed =>
        have hallows : c.Allows origin := Classical.byContradiction fun hno =>
          Option.some_ne_none allowed (hallowed.symm.trans (allowOrigin?_eq_none_iff.mpr hno))
        exact Or.inr ⟨hallows, allowed, rfl, apply_of_allowOrigin? hne hallowed⟩

theorem apply_eq_applied_iff : (c.apply sender r).1 = .applied ↔ c.Admits sender := by
  rcases apply_cases c sender r with
    ⟨hsender, happly⟩ | ⟨origin, rfl, hne, ⟨hno, happly⟩ | ⟨hallows, _, -, happly⟩⟩
  · rw [happly]
    rcases hsender with rfl | rfl
    · simp [Admits]
    · simp [Admits]
  · simp [happly, hno, Admits]
  · simp [happly, hallows, hne, Admits]

/-! What the headers say -/

theorem header?_grant_origin :
    (c.grant allowed r).header? "Access-Control-Allow-Origin" = some allowed := by
  unfold grant
  rw [header?_setHeader_of_ne (by decide), header?_setHeader_of_ne (by decide)]
  split
  · rw [header?_setHeader_of_ne (by decide), header?_setHeader_self]
  · rw [header?_setHeader_self]

theorem header?_grant_vary (h : allowed ≠ "*") :
    (c.grant allowed r).header? "Vary" = some "Origin" := by
  unfold grant
  rw [header?_setHeader_of_ne (by decide), header?_setHeader_of_ne (by decide), if_neg h]
  split
  · rw [header?_setHeader_of_ne (by decide), header?_setHeader_of_ne (by decide),
      header?_setHeader_self]
  · rw [header?_setHeader_of_ne (by decide), header?_setHeader_self]

theorem header?_grant_credentials :
    (c.grant allowed r).header? "Access-Control-Allow-Credentials" =
      if c.credentials then some "true" else r.header? "Access-Control-Allow-Credentials" := by
  unfold grant
  rw [header?_setHeader_of_ne (by decide), header?_setHeader_of_ne (by decide)]
  split
  · rw [header?_setHeader_self]
  · rw [header?_setHeader_of_ne (by decide)]
    split
    · rfl
    · rw [header?_setHeader_of_ne (by decide)]

/-- What a response says to a sender that has access by a setting; `r` is the response before. -/
structure Options.Tells (o : Options) (sender : Option String) (r s : Response) : Prop where
  any : o.IsOpen → s.header? "Access-Control-Allow-Origin" = some "*"
  own : ¬ o.IsOpen →
    s.header? "Access-Control-Allow-Origin" = sender ∧ s.header? "Vary" = some "Origin"
  credentials : s.header? "Access-Control-Allow-Credentials" =
    if o.credentials then some "true" else r.header? "Access-Control-Allow-Credentials"

theorem tells_grant (h : (ofOptions o).allowOrigin? origin = some allowed) :
    o.Tells (some origin) r ((ofOptions o).grant allowed r) := by
  refine ⟨?_, ?_, header?_grant_credentials⟩
  · intro ho
    rcases allowOrigin?_ofOptions h with ⟨-, rfl⟩ | ⟨hno, -⟩
    · exact header?_grant_origin
    · exact absurd ho hno
  · intro ho
    rcases allowOrigin?_ofOptions h with ⟨hopen, -⟩ | ⟨-, rfl, hstar⟩
    · exact absurd hopen ho
    · exact ⟨header?_grant_origin, header?_grant_vary hstar⟩

/-- Access is given to the origins that the setting names and to no other; they are told so, and a
response to any other sender stays as it is. -/
theorem access_as_set (o : Options) (sender : Option String) (r : Response) :
    (((ofOptions o).apply sender r).1 = .applied ↔
      ∃ origin, sender = some origin ∧ origin ≠ "" ∧ (o.IsOpen ∨ o.Lists origin)) ∧
    (((ofOptions o).apply sender r).1 = .applied →
      o.Tells sender r ((ofOptions o).apply sender r).2) ∧
    (((ofOptions o).apply sender r).1 ≠ .applied → ((ofOptions o).apply sender r).2 = r) := by
  refine ⟨apply_eq_applied_iff.trans admits_ofOptions_iff, ?_, ?_⟩
  · intro happlied
    rcases apply_cases (ofOptions o) sender r with
      ⟨-, happly⟩ | ⟨origin, rfl, -, ⟨-, happly⟩ | ⟨-, allowed, hallowed, happly⟩⟩
    · simp [happly] at happlied
    · simp [happly] at happlied
    · rw [happly]
      exact tells_grant hallowed
  · intro hrefused
    exact apply_of_not_admits fun hadmits => hrefused (apply_eq_applied_iff.mpr hadmits)

/-- A listed origin, and a response that varies by another header already. -/
theorem access_as_set_of_listed :
    let o : Options := { origins := some ["null", "https://a.example"] }
    let r := (Response.ok "hi").setHeader "vary" "Accept"
    ((ofOptions o).apply (some "https://a.example") r).1 = .applied ∧
      o.Tells (some "https://a.example") r ((ofOptions o).apply (some "https://a.example") r).2 ∧
      ((ofOptions o).apply (some "*") r).1 ≠ .applied ∧
        ((ofOptions o).apply (some "*") r).2 = r := by
  intro o r
  have hlisted : ((ofOptions o).apply (some "https://a.example") r).1 = .applied := by decide
  have hstar : ((ofOptions o).apply (some "*") r).1 ≠ .applied := by decide
  exact ⟨hlisted, (access_as_set o _ r).2.1 hlisted, hstar, (access_as_set o _ r).2.2 hstar⟩

end WebService.Cors
