import WebService.Json.Shape
import WebService.Proofs.Chain
import WebService.Proofs.Lookup

/-!
Values of a shape's own types. Each is read, as data that has the defaults of all fields left out.
Tuples and choices have no part in this.
-/
namespace WebService.Json.Shape

/-- A field of a record: its name, its shape and its default. -/
abbrev Field := String × Shape × Option Document

/-- The fields of a record. -/
def fields : Shape → List Field
  | record _ fields => fields
  | _ => []

mutual

/-- Whether a value has the types that the shape declares, each within its bounds. The members of a
record are fields of it and stand there once, and only fields with a default may be missing. -/
def fits : Shape → Value → Bool
  | any, _ => true
  | boolean, v =>
    match v with
    | .boolean _ => true
    | _ => false
  | text, v =>
    match v with
    | .text _ => true
    | _ => false
  | integer type, v =>
    match v with
    | .number (.whole i) => type.lowest ≤ i && i ≤ type.highest
    | _ => false
  | optional shape, v =>
    match v with
    | .null => true
    | other => shape.fits other
  | list item, v =>
    match v with
    | .list items => items.all fun v => item.fits v
    | _ => false
  | record _ fields, v =>
    match v with
    | .object members =>
      decide (fields.map (·.1)).Nodup && decide (members.map (·.1)).Nodup
        && (members.all fun m => fitsField fields m.1 m.2)
        && fields.all fun f => (members.lookup f.1).isSome || f.2.2.isSome || f.2.1.isOptional
    | _ => false
  | either _ alternatives, v => fitsFirst alternatives v
  | _, _ => false

def fitsField : List Field → String → Value → Bool
  | [], _, _ => false
  | (name, shape, _) :: rest, key, v => if name = key then shape.fits v else fitsField rest key v

/-- Whether a value fits an alternative and would not be read as one before it. -/
def fitsFirst : List Shape → Value → Bool
  | [], _ => false
  | shape :: rest, v => shape.fits v || ((shape.read v).toOption.isNone && fitsFirst rest v)

end

mutual

/-- The data that a value of the shape stands for, with the defaults of what it leaves out. -/
def filled : Shape → Value → Document
  | optional shape, v =>
    match v with
    | .null => .null
    | other => shape.filled other
  | list item, v =>
    match v with
    | .list items => .list (items.map fun v => item.filled v)
    | other => other.toDocument
  | record _ fields, v =>
    match v with
    | .object members => .record (filledFields members fields)
    | other => other.toDocument
  | either _ alternatives, v => filledFirst alternatives v
  | _, v => v.toDocument

def filledFields (members : List (String × Value)) : List Field → List (String × Document)
  | [] => []
  | (name, shape, fallback) :: rest =>
    (name, match members.lookup name with
      | some v => shape.filled v
      | none => fallback.getD .null) :: filledFields members rest

def filledFirst : List Shape → Value → Document
  | [], v => v.toDocument
  | shape :: rest, v => if shape.fits v then shape.filled v else filledFirst rest v

end

variable {name : String} {shape : Shape} {v : Value} {f : Field} {fields : List Field}
  {m : String × Value}
  {members : List (String × Value)} {found before : List (String × Document)}

theorem fits_optional_of_ne (h : v ≠ .null) : (optional shape).fits v = shape.fits v := by
  rw [fits]
  exact h

theorem filled_optional_of_ne (h : v ≠ .null) : (optional shape).filled v = shape.filled v := by
  rw [filled]
  exact h

/-! Records -/

/-- What stands for a field among the members of a record. -/
def Field.filled (members : List (String × Value)) (f : Field) : Document :=
  match members.lookup f.1 with
  | some v => f.2.1.filled v
  | none => f.2.2.getD .null

theorem filledFields_eq (members : List (String × Value)) (fields : List Field) :
    filledFields members fields = fields.map fun f => (f.1, Field.filled members f) := by
  induction fields with
  | nil => rfl
  | cons f fields ih =>
    rw [filledFields, ih]
    rfl

theorem exists_members_of_fits (h : (record name fields).fits v = true) :
    ∃ members, v = .object members := by
  cases v with
  | object members => exact ⟨members, rfl⟩
  | _ => cases h

theorem fits_record_iff : (record name fields).fits (.object members) = true ↔
    (fields.map (·.1)).Nodup ∧ (members.map (·.1)).Nodup ∧
    (∀ m ∈ members, fitsField fields m.1 m.2 = true) ∧
    ∀ f ∈ fields, (members.lookup f.1).isSome ∨ f.2.2.isSome ∨ f.2.1.isOptional := by
  simp only [fits, Bool.and_eq_true, decide_eq_true_iff, List.all_eq_true, Bool.or_eq_true,
    and_assoc, or_assoc]

theorem fitsField_eq (fields : List Field) (key : String) (v : Value) :
    fitsField fields key v = (fields.lookup key).any (·.1.fits v) := by
  induction fields with
  | nil => rfl
  | cons f fields ih =>
    obtain ⟨name, shape, fallback⟩ := f
    rw [fitsField]
    split
    · rename_i hkey
      subst hkey
      rw [List.lookup_cons_self]
      rfl
    · rename_i hkey
      rw [lookup_cons_of_ne (Ne.symm hkey), ih]

theorem readField_eq (fields : List Field) (key : String) (v : Value) :
    readField fields key v = (fields.lookup key).map (·.1.read v) := by
  induction fields with
  | nil => rfl
  | cons f fields ih =>
    obtain ⟨name, shape, fallback⟩ := f
    rw [readField]
    split
    · rename_i hkey
      subst hkey
      rw [List.lookup_cons_self]
      rfl
    · rename_i hkey
      rw [lookup_cons_of_ne (Ne.symm hkey), ih]

theorem exists_field_of_fits (h : (record name fields).fits (.object members) = true)
    (hm : m ∈ members) : ∃ f ∈ fields, f.1 = m.1 ∧ f.2.1.fits m.2 = true := by
  have hfits := (fits_record_iff.mp h).2.2.1 m hm
  rw [fitsField_eq, Option.any_eq_true] at hfits
  obtain ⟨field, hfield, hvalue⟩ := hfits
  exact ⟨(m.1, field), mem_of_lookup hfield, rfl, hvalue⟩

theorem fits_of_lookup (h : (record name fields).fits (.object members) = true) (hf : f ∈ fields)
    (hv : members.lookup f.1 = some v) : f.2.1.fits v = true := by
  obtain ⟨hfields, -, hknown, -⟩ := fits_record_iff.mp h
  have hfits := hknown _ (mem_of_lookup hv)
  rw [fitsField_eq, lookup_of_mem hfields hf] at hfits
  exact hfits

/-- A field stands for its default, or for a value that fits it. -/
theorem Field.filled_cases (h : (record name fields).fits (.object members) = true)
    (hf : f ∈ fields) :
    Field.filled members f = f.2.2.getD .null ∨
      ∃ v, f.2.1.fits v = true ∧ Field.filled members f = f.2.1.filled v := by
  rw [Field.filled]
  cases hvalue : members.lookup f.1 with
  | none => exact Or.inl rfl
  | some v => exact Or.inr ⟨v, fits_of_lookup h hf hvalue, rfl⟩

/-- A step of the reader that puts what it read of a member to what was found before. -/
def Finds (members : List (String × Value)) (read : String → Value → Document)
    (step : List (String × Document) → String × Value →
      Except Mismatch (List (String × Document))) :
    Prop :=
  ∀ found, ∀ m ∈ members, found.lookup m.1 = none →
    step found m = .ok ((m.1, read m.1 m.2) :: found)

/-- Members with distinct keys are found under their keys, each as what was read of it. -/
theorem Finds.exists_foldlM_eq
    {step : List (String × Document) → String × Value → Except Mismatch _}
    {read : String → Value → Document} (hstep : Finds members read step)
    (hnodup : (members.map (·.1)).Nodup) (hnew : ∀ m ∈ members, before.lookup m.1 = none) :
    ∃ found, members.foldlM step before = .ok found ∧
      ∀ key, found.lookup key = ((members.lookup key).map (read key)).or (before.lookup key) := by
  induction members generalizing before with
  | nil => exact ⟨before, rfl, fun _ => rfl⟩
  | cons m members ih =>
    obtain ⟨name, v⟩ := m
    rw [List.map_cons, List.nodup_cons] at hnodup
    have hother : ∀ m ∈ members, m.1 ≠ name := by
      intro m hm heq
      exact hnodup.1 (List.mem_map.mpr ⟨m, hm, heq⟩)
    have hrest : ∀ m ∈ members, ((name, read name v) :: before).lookup m.1 = none := by
      intro m hm
      rw [lookup_cons_of_ne (hother m hm)]
      exact hnew m (List.mem_cons_of_mem _ hm)
    obtain ⟨found, hfound, hlookup⟩ :=
      ih (fun found m hm => hstep found m (List.mem_cons_of_mem _ hm)) hnodup.2 hrest
    refine ⟨found, ?_, ?_⟩
    · have hfirst := hstep before (name, v) List.mem_cons_self (hnew (name, v) List.mem_cons_self)
      rw [List.foldlM_cons, hfirst]
      exact hfound
    · intro key
      rw [hlookup key]
      by_cases hkey : key = name
      · subst hkey
        rw [lookup_eq_none_of_not_mem hnodup.1, List.lookup_cons_self, List.lookup_cons_self]
        rfl
      · rw [lookup_cons_of_ne hkey, lookup_cons_of_ne hkey]

theorem complete_eq {given : Field → Document}
    (h : ∀ f ∈ fields, found.lookup f.1 = some (given f) ∨
      found.lookup f.1 = none ∧ absent f.1 f.2.1 f.2.2 = .ok (given f)) :
    complete found fields = .ok (fields.map fun f => (f.1, given f)) := by
  induction fields with
  | nil => rfl
  | cons f fields ih =>
    have hrest := ih fun g hg => h g (List.mem_cons_of_mem _ hg)
    rw [complete]
    rcases h f List.mem_cons_self with hgiven | ⟨hmissing, habsent⟩
    · rw [hgiven, hrest]
      rfl
    · rw [hmissing, habsent, hrest]
      rfl

theorem absent_eq (h : f.2.2.isSome ∨ f.2.1.isOptional) :
    absent f.1 f.2.1 f.2.2 = .ok (f.2.2.getD .null) := by
  unfold absent
  cases hfallback : f.2.2 with
  | some document => rfl
  | none =>
    rw [hfallback] at h
    rw [if_pos (h.resolve_left Bool.false_ne_true)]
    rfl

/-- What the reader of a record does with a member. -/
def takeMember (fields : List Field) (found : List (String × Document)) :
    String × Value → Except Mismatch (List (String × Document))
  | (key, v) =>
    if (found.lookup key).isSome then .error (.duplicateField key)
    else match readField fields key v with
      | some read => do return (key, ← read) :: found
      | none => .ok found

theorem read_record_of_fits (h : (record name fields).fits (.object members) = true)
    (hread : ∀ f ∈ fields, ∀ v, f.2.1.fits v = true → f.2.1.read v = .ok (f.2.1.filled v)) :
    (record name fields).read (.object members) =
      .ok ((record name fields).filled (.object members)) := by
  obtain ⟨hfields, hmembers, -, hmissing⟩ := fits_record_iff.mp h
  have hmember : ∀ m ∈ members, ∃ f ∈ fields, fields.lookup m.1 = some f.2 ∧
      readField fields m.1 m.2 = some (.ok (f.2.1.filled m.2)) := by
    intro m hm
    obtain ⟨f, hf, hkey, hvalue⟩ := exists_field_of_fits h hm
    have hfield : fields.lookup m.1 = some f.2 := hkey ▸ lookup_of_mem hfields hf
    refine ⟨f, hf, hfield, ?_⟩
    rw [readField_eq, hfield, Option.map_some, hread f hf m.2 hvalue]
  have hfinds : Finds members (fun key v => (fields.lookup key).elim .null (·.1.filled v))
      (takeMember fields) := by
    intro found m hm hnew
    obtain ⟨f, -, hfield, hvalue⟩ := hmember m hm
    simp [takeMember, hnew, hvalue, hfield, bind, Except.bind, pure, Except.pure]
  obtain ⟨found, hfound, hlookup⟩ := hfinds.exists_foldlM_eq hmembers fun _ _ => List.lookup_nil
  have hcomplete : complete found fields =
      .ok (fields.map fun f => (f.1, Field.filled members f)) := by
    refine complete_eq ?_
    intro f hf
    rw [hlookup f.1, Field.filled]
    cases hvalue : members.lookup f.1 with
    | none =>
      have hmay := hmissing f hf
      rw [hvalue] at hmay
      exact Or.inr ⟨rfl, absent_eq (hmay.resolve_left Bool.false_ne_true)⟩
    | some v =>
      rw [lookup_of_mem hfields hf]
      exact Or.inl rfl
  rw [read, filled, filledFields_eq]
  exact bind_eq_ok_iff.mpr ⟨found, hfound, bind_eq_ok_iff.mpr ⟨_, hcomplete, rfl⟩⟩

/-! All shapes -/

theorem mapM_eq_ok {α β : Type} {read : α → Except Mismatch β} {document : α → β} {l : List α}
    (h : ∀ a ∈ l, read a = .ok (document a)) : l.mapM read = .ok (l.map document) := by
  rw [mapM_eq_ok_iff, List.forall₂_map_right_iff, List.forall₂_same]
  exact h

theorem exists_of_fitsFirst {alternatives : List Shape}
    (h : fitsFirst alternatives v = true) : ∃ shape ∈ alternatives, shape.fits v = true := by
  induction alternatives with
  | nil => cases h
  | cons shape rest ih =>
    rw [fitsFirst, Bool.or_eq_true, Bool.and_eq_true] at h
    rcases h with hfirst | ⟨-, hrest⟩
    · exact ⟨shape, List.mem_cons_self, hfirst⟩
    · obtain ⟨shape, hshape, hfits⟩ := ih hrest
      exact ⟨shape, List.mem_cons_of_mem _ hshape, hfits⟩

theorem readFirst_of_fits {alternatives : List Shape} {v : Value}
    (hread : ∀ shape ∈ alternatives, shape.fits v = true → shape.read v = .ok (shape.filled v))
    (h : fitsFirst alternatives v = true) :
    readFirst alternatives v = some (filledFirst alternatives v) := by
  induction alternatives with
  | nil => cases h
  | cons shape rest ih =>
    rw [fitsFirst, Bool.or_eq_true, Bool.and_eq_true] at h
    rw [readFirst, filledFirst]
    cases hfits : shape.fits v with
    | true =>
      rw [hread shape List.mem_cons_self hfits]
      rfl
    | false =>
      obtain ⟨hrefused, hrest⟩ := h.resolve_left (Bool.eq_false_iff.mp hfits)
      cases hfirst : shape.read v with
      | ok document =>
        rw [hfirst] at hrefused
        cases hrefused
      | error mismatch =>
        exact ih (fun shape hshape => hread shape (List.mem_cons_of_mem _ hshape)) hrest

mutual

/-- A value that fits a shape is read, as data with the defaults filled in. -/
theorem read_of_fits : (shape : Shape) → (v : Value) → shape.fits v = true →
    shape.read v = .ok (shape.filled v)
  | any, _, _ => rfl
  | boolean, .boolean _, _ => rfl
  | text, .text _, _ => rfl
  | integer type, .number (.whole i), h => by
    rw [fits] at h
    rw [read, if_pos h]
    rfl
  | optional shape, v, h => by
    cases v with
    | null => rfl
    | _ => exact read_of_fits shape _ h
  | list item, .list items, h => by
    rw [fits, List.all_eq_true] at h
    rw [read, filled, mapM_eq_ok fun v hv => read_of_fits item v (h v hv)]
    rfl
  | record name fields, .object members, h =>
    read_record_of_fits h (readFields_of_fits fields)
  | either name alternatives, v, h => by
    rw [read, readFirst_of_fits (alternatives_of_fits alternatives v) h]
    rfl

theorem readFields_of_fits : (fields : List Field) → ∀ f ∈ fields, ∀ v, f.2.1.fits v = true →
    f.2.1.read v = .ok (f.2.1.filled v)
  | [] => List.forall_mem_nil _
  | (_, shape, _) :: fields =>
    List.forall_mem_cons.mpr ⟨read_of_fits shape, readFields_of_fits fields⟩

theorem alternatives_of_fits : (alternatives : List Shape) → (v : Value) →
    ∀ shape ∈ alternatives, shape.fits v = true → shape.read v = .ok (shape.filled v)
  | [], _ => List.forall_mem_nil _
  | shape :: rest, v => List.forall_mem_cons.mpr ⟨read_of_fits shape v, alternatives_of_fits rest v⟩

end

end WebService.Json.Shape
