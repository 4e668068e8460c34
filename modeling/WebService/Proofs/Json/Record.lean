import Mathlib.Data.List.Forall2
import WebService.Json.Shape
import WebService.Proofs.Chain

/-!
Records read by their shapes: the data has all fields of the record, in the order in which they are
declared, whether they were given as members or as a list.
-/
namespace WebService.Json.Shape

/-- Whether an entry stands for a field: with what the field's shape reads, or with what stands for
the field where it is left out. -/
def Fills (field : String × Shape × Option Document) (entry : String × Document) : Prop :=
  entry.1 = field.1 ∧ ((∃ v, field.2.1.read v = .ok entry.2) ∨
    absent field.1 field.2.1 field.2.2 = .ok entry.2)

/-- Whether what was found among the members was read by the shapes of the fields. -/
def AreRead (fields : List (String × Shape × Option Document)) (found : List (String × Document)) :
    Prop :=
  ∀ field ∈ fields, ∀ document, found.lookup field.1 = some document →
    ∃ v, field.2.1.read v = .ok document

variable {name key expected : String} {length index : Nat} {v : Value} {document : Document}
  {field : String × Shape × Option Document} {fields : List (String × Shape × Option Document)}
  {found entries : List (String × Document)} {items : List Value}

theorem readField_of_mem (hnodup : (fields.map (·.1)).Nodup) (hfield : field ∈ fields) :
    readField fields field.1 v = some (field.2.1.read v) := by
  induction fields with
  | nil => cases hfield
  | cons first rest ih =>
    rw [List.map_cons, List.nodup_cons] at hnodup
    rcases List.mem_cons.mp hfield with rfl | hrest
    · simp [readField]
    · have hne : first.1 ≠ field.1 := fun he =>
        hnodup.1 (he ▸ List.mem_map_of_mem hrest)
      rw [readField, if_neg hne, ih hnodup.2 hrest]

theorem AreRead.nil : AreRead fields [] := by
  intro field _ document h
  cases h

theorem AreRead.cons (hnodup : (fields.map (·.1)).Nodup) (hfound : AreRead fields found)
    (hread : readField fields key v = some (.ok document)) :
    AreRead fields ((key, document) :: found) := by
  intro field hfield given hgiven
  by_cases hkey : field.1 = key
  · subst hkey
    rw [readField_of_mem hnodup hfield] at hread
    simp only [List.lookup_cons_self, Option.some.injEq] at hgiven
    exact ⟨v, hgiven ▸ Option.some.inj hread⟩
  · rw [List.lookup_cons, beq_false_of_ne hkey] at hgiven
    exact hfound field hfield given hgiven

theorem forall₂_fills_of_complete (hfound : AreRead fields found)
    (h : complete found fields = .ok entries) : List.Forall₂ Fills fields entries := by
  induction fields generalizing entries with
  | nil =>
    cases h
    exact .nil
  | cons first rest ih =>
    have hrest : AreRead rest found := fun field hfield =>
      hfound field (List.mem_cons_of_mem _ hfield)
    rw [complete] at h
    cases hl : found.lookup first.1 with
    | none =>
      rw [hl] at h
      obtain ⟨value, habsent, hothers⟩ := bind_eq_ok_iff.mp h
      obtain ⟨behind, hbehind, hentries⟩ := bind_eq_ok_iff.mp hothers
      cases hentries
      exact .cons ⟨rfl, Or.inr habsent⟩ (ih hrest hbehind)
    | some document =>
      rw [hl] at h
      obtain ⟨value, hvalue, hothers⟩ := bind_eq_ok_iff.mp h
      obtain ⟨behind, hbehind, hentries⟩ := bind_eq_ok_iff.mp hothers
      cases hvalue
      cases hentries
      exact .cons ⟨rfl, Or.inl (hfound first List.mem_cons_self document hl)⟩ (ih hrest hbehind)

theorem forall₂_fills_of_readFields
    (h : readFields expected length index fields items = .ok entries) :
    List.Forall₂ Fills fields entries := by
  induction fields generalizing index items entries with
  | nil =>
    cases items with
    | nil =>
      cases h
      exact .nil
    | cons v items => cases h
  | cons first rest ih =>
    obtain ⟨name, shape, fallback⟩ := first
    cases items with
    | nil =>
      cases fallback with
      | none => cases h
      | some document =>
        obtain ⟨behind, hbehind, hentries⟩ := bind_eq_ok_iff.mp h
        cases hentries
        exact .cons ⟨rfl, Or.inr rfl⟩ (ih hbehind)
    | cons v items =>
      rw [readFields] at h
      obtain ⟨document, hread, hrest⟩ := bind_eq_ok_iff.mp h
      obtain ⟨behind, hbehind, hentries⟩ := bind_eq_ok_iff.mp hrest
      cases hentries
      exact .cons ⟨rfl, Or.inl ⟨v, hread⟩⟩ (ih hbehind)

theorem read_record_eq_ok (hnodup : (fields.map (·.1)).Nodup)
    (h : (record name fields).read v = .ok document) :
    ∃ entries, document = .record entries ∧ List.Forall₂ Fills fields entries := by
  cases v with
  | object members =>
    rw [read] at h
    obtain ⟨found, hfound, hrecord⟩ := bind_eq_ok_iff.mp h
    obtain ⟨entries, hentries, hdocument⟩ := bind_eq_ok_iff.mp hrecord
    cases hdocument
    have hread : AreRead fields found := by
      refine of_foldlM_eq_ok (P := AreRead fields) ?_ AreRead.nil hfound
      rintro found ⟨key, v⟩ more hall hstep
      simp only at hstep
      split at hstep
      · cases hstep
      · split at hstep
        · rename_i hread
          obtain ⟨value, rfl, hmore⟩ := bind_eq_ok_iff.mp hstep
          cases hmore
          exact hall.cons hnodup hread
        · cases hstep
          exact hall
    exact ⟨entries, rfl, forall₂_fills_of_complete hread hentries⟩
  | list items =>
    rw [read] at h
    obtain ⟨entries, hentries, hdocument⟩ := bind_eq_ok_iff.mp h
    cases hdocument
    exact ⟨entries, rfl, forall₂_fills_of_readFields hentries⟩
  | _ => cases h

end WebService.Json.Shape
