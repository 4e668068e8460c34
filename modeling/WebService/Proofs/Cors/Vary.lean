import WebService.Proofs.Cors.Origin
import WebService.Text.Blank

/-!
What a policy does to the header that lists by which fields of the request a response varies. The
origin is to be one of them where it is told its own name; but then it is listed in place of all
others.
-/
namespace WebService

/-- The field names that a value lists between commas. -/
def Header.listed (value : String) : List String :=
  (((Text.splitOn (· = ',') value.toList).map Text.trim).filter fun item => !item.isEmpty).map
    String.ofList

namespace Response

/-- The field names that a response lists for caches. -/
def varying (r : Response) : List String := ((r.header? "Vary").map Header.listed).getD []

/-- Whether a response lists a field name, in any case. -/
def VariesBy (r : Response) (field : String) : Prop :=
  ∃ name ∈ r.varying, Header.sameName name field = true

instance (r : Response) (field : String) : Decidable (r.VariesBy field) :=
  inferInstanceAs (Decidable (∃ name ∈ r.varying, _))

end Response

namespace Cors

open Response (AgreesBut)

variable {c : Cors} {sender : Option String} {r : Response} {field : String}

/-- Whether a sender is told its own name. -/
def Echoes (c : Cors) (sender : Option String) : Prop :=
  ∃ origin, sender = some origin ∧ origin ≠ "" ∧ origin ≠ "*" ∧
    c.allowOrigin? origin = some origin

/-- Where the sender is not told its own name, the list of fields is left alone as well. -/
theorem apply_agreesBut_of_not_echoes (h : ¬ c.Echoes sender) :
    (c.apply sender r).2.AgreesBut allowNames r := by
  rcases apply_cases c sender r with
    ⟨-, happly⟩ | ⟨origin, rfl, hne, ⟨-, happly⟩ | ⟨-, allowed, hallowed, happly⟩⟩
  · rw [happly]
    exact AgreesBut.refl _ r
  · rw [happly]
    exact AgreesBut.refl _ r
  · rw [happly]
    have hstar : allowed = "*" := by
      rcases told_of_allowOrigin? hallowed with hstar | rfl
      · exact hstar
      · exact Classical.byContradiction fun hstar => h ⟨allowed, rfl, hne, hstar, hallowed⟩
    refine grant_induction (P := fun s => s.AgreesBut allowNames r) (AgreesBut.refl _ r) ?_
    intro s header hmem hs
    rcases name_of_mem_granted hmem with ⟨-, hown⟩ | hallow
    · exact absurd hstar hown
    · exact hs.setHeader _ _ hallow

theorem header?_apply_of_echoes (h : c.Echoes sender) :
    (c.apply sender r).2.header? "Vary" = some "Origin" := by
  obtain ⟨origin, rfl, hne, hstar, hallowed⟩ := h
  rw [apply_of_allowOrigin? hne hallowed]
  exact header?_grant_vary hstar

theorem varying_apply_of_not_echoes (h : ¬ c.Echoes sender) :
    (c.apply sender r).2.varying = r.varying := by
  rw [Response.varying, (apply_agreesBut_of_not_echoes h).header? (by decide), Response.varying]

theorem variesBy_apply_of_echoes (h : c.Echoes sender) :
    (c.apply sender r).2.VariesBy field ↔ Header.sameName "Origin" field = true := by
  have hvarying : (c.apply sender r).2.varying = ["Origin"] := by
    rw [Response.varying, header?_apply_of_echoes h]
    rfl
  rw [Response.VariesBy, hvarying]
  simp

/-- A policy leaves alone all headers but those that say what is allowed and the one that lists the
fields by which a response varies. That one it touches only where the sender is told its own name,
and then lists the origin there, but nothing else; so the fields that were listed before are still
listed just if none but the origin was, or the sender is not told its own name. -/
theorem vary_under_policy (c : Cors) (sender : Option String) (r : Response) :
    let s := (c.apply sender r).2
    s.AgreesBut headerNames r ∧
    (¬ c.Echoes sender → s.AgreesBut allowNames r ∧ s.header? "Vary" = r.header? "Vary") ∧
    (c.Echoes sender → ∀ field, s.VariesBy field ↔ Header.sameName "Origin" field = true) ∧
    ((∀ field, r.VariesBy field → s.VariesBy field) ↔
      (c.Echoes sender → ∀ field, r.VariesBy field → Header.sameName "Origin" field = true)) := by
  intro s
  refine ⟨c.apply_agreesBut sender r, ?_, fun h field => variesBy_apply_of_echoes h, ?_⟩
  · intro h
    have hagrees := apply_agreesBut_of_not_echoes (r := r) h
    exact ⟨hagrees, hagrees.header? (by decide)⟩
  · constructor
    · intro hkept h field hfield
      exact (variesBy_apply_of_echoes h).mp (hkept field hfield)
    · intro honly field hfield
      by_cases h : c.Echoes sender
      · exact (variesBy_apply_of_echoes h).mpr (honly h field hfield)
      · rwa [Response.VariesBy, varying_apply_of_not_echoes h]

/-- A response that lists two fields, for a sender that is told its own name and for one that is
told nothing. -/
theorem vary_under_policy_of_two_fields :
    let c := ofOptions { origins := some ["https://a.example"] }
    let r := (Response.ok "hi").setHeader "vary" "Accept, ORIGIN"
    c.Echoes (some "https://a.example") ∧ ¬ c.Echoes (some "https://b.example") ∧
      (c.apply (some "https://a.example") r).2.VariesBy "origin" ∧
      ¬ (∀ field, r.VariesBy field → (c.apply (some "https://a.example") r).2.VariesBy field) ∧
      (c.apply (some "https://b.example") r).2.header? "Vary" = some "Accept, ORIGIN" := by
  intro c r
  have hechoes : c.Echoes (some "https://a.example") :=
    ⟨"https://a.example", rfl, by decide, by decide, by decide⟩
  have hstranger : ¬ c.Echoes (some "https://b.example") := by
    rintro ⟨origin, horigin, -, -, hallowed⟩
    cases horigin
    exact absurd hallowed (by decide)
  obtain ⟨-, -, hlisted, hkept⟩ := vary_under_policy c (some "https://a.example") r
  obtain ⟨-, huntouched, -, -⟩ := vary_under_policy c (some "https://b.example") r
  refine ⟨hechoes, hstranger, (hlisted hechoes "origin").mpr (by decide), ?_,
    (huntouched hstranger).2⟩
  intro hall
  exact absurd (hkept.mp hall hechoes "Accept" (by decide)) (by decide)

/-- A field that a handler listed is lost when the sender is told its own name. -/
theorem policy_forgets_vary : ¬ ∀ (o : Options) (sender : Option String) (r : Response)
    (field : String), r.VariesBy field → ((ofOptions o).apply sender r).2.VariesBy field := by
  intro h
  have hlisted := h { origins := some ["https://a.example"] } (some "https://a.example")
    ((Response.ok "x").setHeader "Vary" "Accept-Encoding") "Accept-Encoding" (by decide)
  exact absurd hlisted (by decide)

end Cors

end WebService
