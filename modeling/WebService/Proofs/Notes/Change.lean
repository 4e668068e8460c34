import WebService.Service.Notes

/-!
Changes to the notes, and where they leave each note: those behind one that is taken away move up
by a place.
-/
namespace WebService.Notes

/-- What a request may do to the notes. -/
inductive Change where
  | add (text : String)
  | remove (id : Nat)
  | keep
deriving DecidableEq, Repr

namespace Change

variable {store : Store} {text : String} {change : Change} {changes : List Change}
  {i j id gone place : Nat}

/-- The notes after a change; there may be no note to be taken away. -/
def apply : Change → Store → Store
  | add text, store => store ++ [text]
  | remove id, store => store.take id ++ store.drop (id + 1)
  | keep, store => store

/-- The notes after one change and another. -/
def applyAll (changes : List Change) (store : Store) : Store :=
  changes.foldl (fun store change => change.apply store) store

/-- The place of a note after a change, unless it is taken away. -/
def move? : Change → Nat → Option Nat
  | remove gone, id => if id = gone then none else if gone < id then some (id - 1) else some id
  | _, id => some id

/-- The place of a note after one change and another. -/
def place? : List Change → Nat → Option Nat
  | [], id => some id
  | change :: rest, id => (change.move? id).bind (place? rest)

/-! The notes -/

theorem apply_remove : (remove id).apply store = store.eraseIdx id :=
  (List.eraseIdx_eq_take_drop_succ store id).symm

/-! The places -/

theorem move?_remove_eq_some : (remove gone).move? id = some place ↔
    (id < gone ∧ place = id) ∨ (gone < id ∧ place = id - 1) := by
  simp only [move?]
  split
  · constructor
    · intro h
      cases h
    · omega
  · split <;> simp only [Option.some.injEq] <;> omega

/-- A change leaves the text of a note as it is. -/
theorem getElem?_apply (h : store[id]? = some text) (hm : change.move? id = some place) :
    (change.apply store)[place]? = some text := by
  obtain ⟨hlt, -⟩ := List.getElem?_eq_some_iff.mp h
  cases change with
  | add more =>
    cases hm
    exact (List.getElem?_append_left hlt).trans h
  | remove gone =>
    rw [apply_remove, List.getElem?_eraseIdx]
    rcases move?_remove_eq_some.mp hm with ⟨hbefore, rfl⟩ | ⟨hbehind, rfl⟩
    · rw [if_pos hbefore, h]
    · rw [if_neg (by omega), Nat.sub_add_cancel (by omega), h]
  | keep =>
    cases hm
    exact h

theorem move?_injective (hi : change.move? i = some place) (hj : change.move? j = some place) :
    i = j := by
  cases change with
  | add text =>
    cases hi
    cases hj
    rfl
  | remove gone =>
    rcases move?_remove_eq_some.mp hi with ⟨_, _⟩ | ⟨_, _⟩ <;>
      rcases move?_remove_eq_some.mp hj with ⟨_, _⟩ | ⟨_, _⟩ <;> omega
  | keep =>
    cases hi
    cases hj
    rfl

/-- However many changes there are, a note that is still there has its text. -/
theorem getElem?_applyAll (h : store[id]? = some text) (hp : place? changes id = some place) :
    (applyAll changes store)[place]? = some text := by
  induction changes generalizing store id with
  | nil =>
    cases hp
    exact h
  | cons change rest ih =>
    obtain ⟨next, hm, hp⟩ := Option.bind_eq_some_iff.mp hp
    exact ih (getElem?_apply h hm) hp

/-- No two notes come to one place. -/
theorem place?_injective (hi : place? changes i = some place) (hj : place? changes j = some place) :
    i = j := by
  induction changes generalizing i j with
  | nil =>
    cases hi
    cases hj
    rfl
  | cons change rest ih =>
    obtain ⟨nextI, hmi, hi⟩ := Option.bind_eq_some_iff.mp hi
    obtain ⟨nextJ, hmj, hj⟩ := Option.bind_eq_some_iff.mp hj
    cases ih hi hj
    exact move?_injective hmi hmj

/-- A note keeps its place while none is taken away from there or from before. -/
theorem place?_of_forall_lt (h : ∀ gone, remove gone ∈ changes → id < gone) :
    place? changes id = some id := by
  induction changes with
  | nil => rfl
  | cons change rest ih =>
    have hm : change.move? id = some id := by
      cases change with
      | add text => rfl
      | remove gone =>
        exact move?_remove_eq_some.mpr (Or.inl ⟨h gone List.mem_cons_self, rfl⟩)
      | keep => rfl
    rw [place?, hm, Option.bind_some]
    exact ih fun gone hg => h gone (List.mem_cons_of_mem _ hg)

end Change

end WebService.Notes
