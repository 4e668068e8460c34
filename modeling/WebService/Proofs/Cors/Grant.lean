import WebService.Cors
import WebService.Proofs.Response.Headers

/-!
Which origins a policy lets in, and what it leaves alone in the responses that it is applied to.
-/
namespace WebService.Cors

open Response (AgreesBut)

variable {c : Cors} {allowed origin : String} {sender : Option String} {r : Response}

/-- The names of the headers that a policy may set. -/
def headerNames : List String :=
  ["Vary", "Access-Control-Allow-Origin", "Access-Control-Allow-Credentials",
    "Access-Control-Allow-Headers", "Access-Control-Allow-Methods"]

/-- The names of those headers that say what is allowed. -/
def allowNames : List String :=
  ["Access-Control-Allow-Origin", "Access-Control-Allow-Credentials",
    "Access-Control-Allow-Headers", "Access-Control-Allow-Methods"]

/-- Whether a policy lets an origin in. -/
def Allows (c : Cors) (origin : String) : Prop :=
  match c.origins with
  | .any => True
  | .only list => origin ∈ list

/-- Whether the origin that a request names, if it names one, is one that the policy lets in. -/
def Admits (c : Cors) (sender : Option String) : Prop :=
  ∃ origin, sender = some origin ∧ origin ≠ "" ∧ c.Allows origin

theorem allowOrigin?_eq_none_iff : c.allowOrigin? origin = none ↔ ¬ c.Allows origin := by
  cases h : c.origins <;> simp [allowOrigin?, Allows, h]

/-- The headers that a policy sets for an origin that is told `allowed`. -/
def granted (c : Cors) (allowed : String) : List (String × String) :=
  (if allowed = "*" then [] else [("Vary", "Origin")]) ++
    [("Access-Control-Allow-Origin", allowed)] ++
    (if c.credentials then [("Access-Control-Allow-Credentials", "true")] else []) ++
    [("Access-Control-Allow-Headers", ", ".intercalate c.headers),
      ("Access-Control-Allow-Methods", ", ".intercalate c.methods)]

theorem grant_eq_foldl : c.grant allowed r =
    (c.granted allowed).foldl (fun r header => r.setHeader header.1 header.2) r := by
  unfold grant granted
  split
  · split <;> rfl
  · split <;> rfl

theorem name_of_mem_granted {header : String × String} (h : header ∈ c.granted allowed) :
    header.1 = "Vary" ∧ allowed ≠ "*" ∨ header.1 ∈ allowNames := by
  simp only [granted, List.mem_append, List.mem_ite_nil_left, List.mem_ite_nil_right,
    List.mem_cons, List.not_mem_nil, or_false] at h
  rcases h with ((⟨hstar, rfl⟩ | rfl) | ⟨-, rfl⟩) | rfl | rfl
  · exact Or.inl ⟨rfl, hstar⟩
  all_goals simp [allowNames]

theorem mem_headerNames_of_mem_granted {header : String × String}
    (h : header ∈ c.granted allowed) : header.1 ∈ headerNames := by
  rcases name_of_mem_granted h with ⟨hvary, -⟩ | hallow
  · rw [hvary]
    exact List.mem_cons_self
  · exact List.mem_cons_of_mem _ hallow

/-- What is kept whenever one of the policy's headers is set is kept when all of them are. -/
theorem grant_induction {P : Response → Prop} (hr : P r)
    (hset : ∀ s, ∀ header ∈ c.granted allowed, P s → P (s.setHeader header.1 header.2)) :
    P (c.grant allowed r) := by
  rw [grant_eq_foldl]
  exact List.foldlRecOn _ _ hr fun s hs header hm => hset s header hm hs

theorem grant_agreesBut (c : Cors) (allowed : String) (r : Response) :
    (c.grant allowed r).AgreesBut headerNames r :=
  grant_induction (P := fun s => s.AgreesBut headerNames r) (AgreesBut.refl headerNames r)
    fun _ _ hm hs => hs.setHeader _ _ (mem_headerNames_of_mem_granted hm)

/-- Only an origin that the policy lets in changes a response. -/
theorem apply_of_not_admits (h : ¬ c.Admits sender) : (c.apply sender r).2 = r := by
  unfold apply
  split
  · rfl
  · rename_i origin hs
    obtain ⟨rfl, hne⟩ := Option.filter_eq_some_iff.mp hs
    have hno : c.allowOrigin? origin = none := by
      rw [allowOrigin?_eq_none_iff]
      intro ha
      exact h ⟨origin, rfl, by simpa using hne, ha⟩
    simp [hno]

theorem apply_of_allowOrigin? (hne : origin ≠ "") (h : c.allowOrigin? origin = some allowed) :
    c.apply (some origin) r = (.applied, c.grant allowed r) := by
  have hfilter : (some origin).filter (fun o => !o.isEmpty) = some origin := by
    simp [hne]
  simp [apply, hfilter, h]

/-- An origin that is let in is told an asterisk or its own name. -/
theorem told_of_allowOrigin? (h : c.allowOrigin? origin = some allowed) :
    allowed = "*" ∨ allowed = origin := by
  unfold allowOrigin? at h
  split at h
  · exact Or.inl (Option.some.inj h).symm
  · split at h
    · exact Or.inr (Option.some.inj h).symm
    · cases h

theorem apply_of_admits (h : c.Admits sender) :
    ∃ allowed, (c.apply sender r).2 = c.grant allowed r ∧
      (allowed = "*" ∨ sender = some allowed) := by
  obtain ⟨origin, rfl, hne, hallows⟩ := h
  cases ha : c.allowOrigin? origin with
  | none => exact absurd hallows (allowOrigin?_eq_none_iff.mp ha)
  | some allowed =>
    refine ⟨allowed, by rw [apply_of_allowOrigin? hne ha], ?_⟩
    exact (told_of_allowOrigin? ha).imp_right fun hown => by rw [hown]

theorem apply_agreesBut (c : Cors) (sender : Option String) (r : Response) :
    (c.apply sender r).2.AgreesBut headerNames r := by
  unfold apply
  split
  · exact AgreesBut.refl _ r
  · split
    · exact AgreesBut.refl _ r
    · exact grant_agreesBut c _ r

end WebService.Cors
