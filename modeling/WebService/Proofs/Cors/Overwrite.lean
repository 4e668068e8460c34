import WebService.Proofs.Cors.Origin
import WebService.Proofs.Response.Map

/-!
A policy that is applied to a response again: the last origin counts, and of those before it nothing
is left.
-/
namespace WebService.Cors

open Response (namesOf setHeaders)

variable {c : Cors} {o : Options} {allowed told : String} {sender : Option String} {r : Response}

/-! The headers that are set -/

theorem grant_eq_setHeaders : c.grant allowed r = setHeaders (c.granted allowed) r := grant_eq_foldl

theorem names_granted : (c.granted allowed).map (·.1) =
    (if allowed = "*" then [] else ["Vary"]) ++ ["Access-Control-Allow-Origin"] ++
      (if c.credentials then ["Access-Control-Allow-Credentials"] else []) ++
      ["Access-Control-Allow-Headers", "Access-Control-Allow-Methods"] := by
  unfold granted
  split
  · split <;> rfl
  · split <;> rfl

theorem nodup_namesOf_granted : (namesOf (c.granted allowed)).Nodup := by
  have hsublist : ((c.granted allowed).map (·.1)).Sublist headerNames := by
    rw [names_granted]
    split
    · split <;> decide
    · split <;> decide
  have hlowered : (headerNames.map Header.lowered).Nodup := by decide
  rw [Response.namesOf_eq_map]
  exact hlowered.sublist (hsublist.map Header.lowered)

/-- Which headers are set only depends on whether the origin is told an asterisk. -/
theorem grant_grant (h : allowed = "*" ↔ told = "*") :
    c.grant told (c.grant allowed r) = c.grant told r := by
  have hnames : (c.granted allowed).map (·.1) = (c.granted told).map (·.1) := by
    simp only [names_granted, h]
  simp only [grant_eq_setHeaders]
  exact Response.setHeaders_setHeaders hnames nodup_namesOf_granted

/-! Policies as they are set -/

/-- What an origin that has access is told is an asterisk just if every origin has access. -/
theorem exists_apply_eq_grant (h : ((ofOptions o).apply sender r).1 = .applied) :
    ∃ allowed, (allowed = "*" ↔ o.IsOpen) ∧
      ∀ s, (ofOptions o).apply sender s = (.applied, (ofOptions o).grant allowed s) := by
  obtain ⟨origin, rfl, hne, hallows⟩ := apply_eq_applied_iff.mp h
  cases hallowed : (ofOptions o).allowOrigin? origin with
  | none => exact absurd hallows (allowOrigin?_eq_none_iff.mp hallowed)
  | some allowed =>
    refine ⟨allowed, ?_, ?_⟩
    · rcases allowOrigin?_ofOptions hallowed with ⟨hopen, hstar⟩ | ⟨hclosed, -, hstar⟩
      · exact iff_of_true hstar hopen
      · exact iff_of_false hstar hclosed
    · exact fun s => apply_of_allowOrigin? hne hallowed

/-- A response to which a policy is applied for two origins that have access, one after the other,
is the one to which it is applied for the second alone; in particular it makes no difference to
apply it again. -/
theorem apply_overwrites (o : Options) (r : Response) (first second : Option String)
    (hfirst : ((ofOptions o).apply first r).1 = .applied)
    (hsecond : ((ofOptions o).apply second r).1 = .applied) :
    (ofOptions o).apply second ((ofOptions o).apply first r).2 = (ofOptions o).apply second r ∧
    (ofOptions o).apply first ((ofOptions o).apply first r).2 = (ofOptions o).apply first r := by
  obtain ⟨allowed, hallowed, hgrant⟩ := exists_apply_eq_grant hfirst
  obtain ⟨told, htold, htell⟩ := exists_apply_eq_grant hsecond
  constructor
  · rw [htell, htell, hgrant, grant_grant (hallowed.trans htold.symm)]
  · rw [hgrant, hgrant, grant_grant Iff.rfl]

/-- The response holds some of the headers already, under other spellings and in another order. -/
theorem apply_overwrites_of_listed :
    let o : Options :=
      { origins := some ["https://a.example", "https://b.example"], credentials := true }
    let r := (((Response.ok "hi").setHeader "access-control-allow-methods" "PUT").setHeader
      "X-Part" "1").setHeader "VARY" "Accept"
    ((ofOptions o).apply (some "https://a.example") r).1 = .applied ∧
      ((ofOptions o).apply (some "https://b.example") r).1 = .applied ∧
      (ofOptions o).apply (some "https://b.example")
          ((ofOptions o).apply (some "https://a.example") r).2 =
        (ofOptions o).apply (some "https://b.example") r ∧
      ((ofOptions o).apply (some "https://a.example") r).2 ≠
        ((ofOptions o).apply (some "https://b.example") r).2 := by
  intro o r
  have hfirst : ((ofOptions o).apply (some "https://a.example") r).1 = .applied := by decide
  have hsecond : ((ofOptions o).apply (some "https://b.example") r).1 = .applied := by decide
  exact ⟨hfirst, hsecond, (apply_overwrites o r _ _ hfirst hsecond).1, by decide⟩

end WebService.Cors
