import Mathlib.Data.List.Induction
import WebService.Proofs.Lookup
import WebService.Proofs.Settings.Key
import WebService.Settings.Layer

/-!
Layers put over one another, key by key. A table of settings is put over another by putting each of
its settings over what is there under the key, and no other key changes.
-/
namespace WebService.Settings

open Json (Document Shape Value)
open Json.Shape (Field)

namespace Setting

variable {key name part : String} {s root : Setting} {old : Option Setting}
  {layer : Option String} {entries before : List (String × Setting)}

/-- What a table has under a key. -/
def child? (s : Setting) (key : String) : Option Setting := s.tableOf.2.lookup key

/-- What stands under a key of the configuration. -/
def at? (root : Setting) (key : Key) : Option Setting :=
  (root.child? key.part).bind (·.child? key.name)

def isTable : Setting → Bool
  | table .. => true
  | _ => false

theorem exists_table (h : s.isTable = true) : ∃ layer entries, s = table layer entries := by
  cases s with
  | table layer entries => exact ⟨layer, entries, rfl⟩
  | _ => cases h

/-! One entry -/

theorem lookup_alterEntry (key k : String) (change : Option Setting → Setting)
    (entries : List (String × Setting)) : (alterEntry key change entries).lookup k =
      if k = key then some (change (entries.lookup key)) else entries.lookup k := by
  induction entries with
  | nil =>
    rw [alterEntry]
    split
    · rename_i hk
      rw [hk, List.lookup_cons_self]
      rfl
    · rename_i hk
      exact lookup_cons_of_ne hk
  | cons first rest ih =>
    obtain ⟨name, s⟩ := first
    rw [alterEntry]
    by_cases hname : name = key
    · subst hname
      rw [if_pos rfl]
      split
      · rename_i hk
        rw [hk, List.lookup_cons_self, List.lookup_cons_self]
      · rename_i hk
        rw [lookup_cons_of_ne hk, lookup_cons_of_ne hk]
    · rw [if_neg hname, lookup_cons_of_ne (Ne.symm hname)]
      by_cases hk : k = name
      · subst hk
        rw [List.lookup_cons_self, List.lookup_cons_self, if_neg hname]
      · rw [lookup_cons_of_ne hk, lookup_cons_of_ne hk, ih]

theorem child?_alter (s : Setting) (key k : String) (change : Option Setting → Setting) :
    (s.alter key change).child? k =
      if k = key then some (change (s.child? key)) else s.child? k :=
  lookup_alterEntry key k change _

/-- What a setting makes of what it is put over. -/
def overlay (s : Setting) (old : Option Setting) : Setting :=
  match s with
  | table _ entries => putAll entries (old.getD empty)
  | other => other

theorem put_eq_alter (key : String) (s root : Setting) :
    put key s root = root.alter (Text.lower key) s.overlay := by
  cases s <;> rfl

/-! Tables -/

theorem isTable_putAll (h : root.isTable = true) (entries : List (String × Setting)) :
    (putAll entries root).isTable = true := by
  induction entries generalizing root with
  | nil => exact h
  | cons first rest ih =>
    obtain ⟨key, s⟩ := first
    rw [putAll, put_eq_alter]
    exact ih rfl

/-- Entries with distinct keys in lower case are put over what is there under their keys. -/
theorem child?_putAll (hnodup : (entries.map (·.1)).Nodup)
    (hlower : ∀ e ∈ entries, Text.lower e.1 = e.1) (root : Setting) (key : String) :
    (putAll entries root).child? key =
      match entries.lookup key with
      | some s => some (s.overlay (root.child? key))
      | none => root.child? key := by
  induction entries generalizing root with
  | nil => rfl
  | cons first rest ih =>
    obtain ⟨k, s⟩ := first
    rw [List.map_cons, List.nodup_cons] at hnodup
    rw [putAll, put_eq_alter, hlower (k, s) List.mem_cons_self,
      ih hnodup.2 fun e he => hlower e (List.mem_cons_of_mem _ he)]
    by_cases hkey : key = k
    · subst hkey
      rw [lookup_eq_none_of_not_mem hnodup.1, List.lookup_cons_self, child?_alter, if_pos rfl]
    · rw [lookup_cons_of_ne hkey, child?_alter, if_neg hkey]

/-! Settings as values -/

theorem toMembers_eq (entries : List (String × Setting)) :
    toMembers entries = entries.map fun e => (e.1, e.2.toValue) := by
  induction entries with
  | nil => rfl
  | cons first rest ih => rw [toMembers, ih, List.map_cons]

theorem member?_toValue (s : Setting) (key : String) :
    s.toValue.member? key = (s.child? key).map toValue := by
  cases s with
  | scalar layer x => cases x <;> rfl
  | list layer items => rfl
  | table layer entries =>
    rw [toValue, Value.member?_object, toMembers_eq, lookup_map]
    rfl

theorem given?_toValue (s : Setting) (key : Key) :
    given? s.toValue key = (s.at? key).map toValue := by
  rw [given?, member?_toValue, at?]
  cases s.child? key.part with
  | none => rfl
  | some t => exact t.member?_toValue key.name

/-- A setting whose value fits a record is a table of its fields, each of which fits. -/
theorem exists_entries_of_fits {fields : List Field}
    (h : (Shape.record name fields).fits s.toValue = true) :
    ∃ layer entries, s = table layer entries ∧ (entries.map (·.1)).Nodup ∧
      (∀ e ∈ entries, ∃ f ∈ fields, f.1 = e.1 ∧ f.2.1.fits e.2.toValue = true) ∧
      ∀ f ∈ fields, ∀ t, entries.lookup f.1 = some t → f.2.1.fits t.toValue = true := by
  cases s with
  | scalar layer x => cases x <;> cases h
  | list layer items => cases h
  | table layer entries =>
    rw [toValue, toMembers_eq] at h
    refine ⟨layer, entries, rfl, ?_, ?_, ?_⟩
    · have hkeys := (Shape.fits_record_iff.mp h).2.1
      rwa [List.map_map] at hkeys
    · intro e he
      exact Shape.exists_field_of_fits h (List.mem_map_of_mem he)
    · intro f hf t ht
      refine Shape.fits_of_lookup h hf ?_
      rw [lookup_map, ht]
      rfl

end Setting

end WebService.Settings
