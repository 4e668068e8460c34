import WebService.Proofs.Chain
import WebService.Proofs.Markup.Reading

/-!
Events that nest: between a start tag and the end tag of the same name stand whole elements only.
The check of documents accepts just the texts whose events nest under one root.
-/
namespace WebService.Markup

variable {event : Event} {events first inner later : List Event} {name : List Char}
  {opened opened' : List (List Char)} {o o' : Outline} {s t : Source} {k roots size fuel : Nat}

def Event.isTag : Event → Bool
  | .start _ => true
  | .finish _ => true
  | .empty _ => true
  | _ => false

/-- Whether an event may stand outside the root: white space, comments and declarations. -/
def Event.isOuter : Event → Bool
  | .text content => content.all isOuterSpace
  | .data _ => false
  | event => !event.isTag

/-- The events of what stands in an element. -/
inductive Nests : List Event → Prop where
  | nil : Nests []
  | plain {event : Event} {events : List Event} (h : event.isTag = false) (hevents : Nests events) :
      Nests (event :: events)
  | empty {events : List Event} (name : List Char) (hevents : Nests events) :
      Nests (.empty name :: events)
  | element {inner events : List Event} (name : List Char) (hinner : Nests inner)
      (hevents : Nests events) : Nests (.start name :: (inner ++ .finish name :: events))

/-- The events of one element. -/
inductive IsTree : List Event → Prop where
  | empty (name : List Char) : IsTree [.empty name]
  | closed {inner : List Event} (name : List Char) (h : Nests inner) :
      IsTree (.start name :: (inner ++ [.finish name]))

/-- The events of a text with a number of root elements. -/
inductive HasRoots : Nat → List Event → Prop where
  | nil : HasRoots 0 []
  | outer {k : Nat} {event : Event} {events : List Event} (h : event.isOuter = true)
      (hevents : HasRoots k events) : HasRoots k (event :: events)
  | root {k : Nat} {first events : List Event} (hfirst : IsTree first)
      (hevents : HasRoots k events) : HasRoots (k + 1) (first ++ events)

theorem IsTree.nests_append (h : IsTree first) (hevents : Nests events) :
    Nests (first ++ events) := by
  cases h with
  | empty name => exact .empty name hevents
  | closed name hinner => simpa using Nests.element name hinner hevents

/-! What stands in elements that are open -/

/-- What has to follow where elements are open, the innermost first, if there are to be `k` more
roots: the end tag of each, with whole elements between them. -/
def Closes (k : Nat) : List (List Char) → List Event → Prop
  | [], events => HasRoots k events
  | name :: opened, events => ∃ inner later, events = inner ++ .finish name :: later ∧
      Nests inner ∧ Closes k opened later

theorem Closes.plain (h : Closes k opened events) (htag : event.isTag = false)
    (houter : opened = [] → event.isOuter = true) : Closes k opened (event :: events) := by
  cases opened with
  | nil => exact .outer (houter rfl) h
  | cons name opened =>
    obtain ⟨inner, later, rfl, hinner, hlater⟩ := h
    exact ⟨event :: inner, later, rfl, .plain htag hinner, hlater⟩

theorem Closes.tree (h : Closes k opened events) (hfirst : IsTree first) :
    Closes (if opened = [] then k + 1 else k) opened (first ++ events) := by
  cases opened with
  | nil => exact .root hfirst h
  | cons name opened =>
    obtain ⟨inner, later, rfl, hinner, hlater⟩ := h
    exact ⟨first ++ inner, later, (List.append_assoc ..).symm, hfirst.nests_append hinner, hlater⟩

theorem Closes.start (h : Closes k (name :: opened) events) :
    Closes (if opened = [] then k + 1 else k) opened (.start name :: events) := by
  obtain ⟨inner, later, rfl, hinner, hlater⟩ := h
  simpa using hlater.tree (.closed name hinner)

theorem Closes.finish (h : Closes k opened events) :
    Closes k (name :: opened) (.finish name :: events) :=
  ⟨[], events, rfl, .nil, h⟩

/-! What one event does -/

/-- How an event changes the elements that are open. -/
def Event.Leaves (opened opened' : List (List Char)) : Event → Prop
  | .start name => opened' = name :: opened
  | .finish name => opened = name :: opened'
  | _ => opened' = opened

theorem Event.Leaves.eq_of_not_isTag (h : event.Leaves opened opened')
    (htag : event.isTag = false) : opened' = opened := by
  cases event with
  | start => cases htag
  | finish => cases htag
  | _ => exact h

namespace Source

variable {chunk content rest : List Char}

theorem opened_ofText (cs : List Char) : (ofText cs).opened = [] := by
  unfold ofText
  split
  · rfl
  · rfl

theorem leaves_of_endTag (h : s.endTag content rest = .ok (event, t)) :
    event.Leaves s.opened t.opened := by
  simp only [endTag] at h
  split at h
  · cases h
  · rename_i expected opened hopened
    split at h
    · rename_i hname
      cases h
      rw [hopened, hname]
      rfl
    · cases h

theorem leaves_of_startTag (h : s.startTag content rest = .ok (event, t)) :
    event.Leaves s.opened t.opened := by
  unfold startTag at h
  split at h
  · cases h
    rfl
  · cases h
    rfl

theorem leaves_of_bang (h : s.bang chunk = .ok (event, t)) : event.Leaves s.opened t.opened := by
  unfold bang at h
  repeat' split at h
  all_goals cases h
  all_goals rfl

theorem leaves_of_question (h : s.question chunk = .ok (event, t)) :
    event.Leaves s.opened t.opened := by
  unfold question at h
  split at h
  · cases h
  · split at h
    · cases h
    · dsimp only at h
      split at h
      · cases h
        rfl
      · cases h
        rfl

theorem leaves_of_markup (h : s.markup chunk = .ok (event, t)) :
    event.Leaves s.opened t.opened := by
  unfold markup at h
  split at h
  · exact leaves_of_bang h
  · exact leaves_of_question h
  · split at h
    · cases h
    · split at h
      · exact leaves_of_endTag h
      · exact leaves_of_startTag h

theorem leaves_of_next (h : s.next = .ok (some (event, t))) : event.Leaves s.opened t.opened := by
  unfold next at h
  split at h
  · cases h
  · rename_i chunk _
    cases hm : s.markup chunk with
    | error fault => simp [hm, Except.map] at h
    | ok read =>
      have hread : read = (event, t) := by simpa [hm, Except.map] using h
      exact leaves_of_markup (hm.trans (congrArg _ hread))
  · cases h
    rfl

end Source

theorem step_of_not_isTag (htag : event.isTag = false) (h : o.step event = .ok o') :
    o' = o ∧ (o.depth = 0 → event.isOuter = true) := by
  cases event with
  | start => cases htag
  | finish => cases htag
  | empty => cases htag
  | text content =>
    simp only [Outline.step] at h
    split at h
    · cases h
    · rename_i hspace
      cases h
      exact ⟨rfl, fun hdepth => by simpa [hdepth, Event.isOuter] using hspace⟩
  | data =>
    simp only [Outline.step] at h
    split at h
    · cases h
    · rename_i hdepth
      cases h
      exact ⟨rfl, fun hzero => absurd hzero hdepth⟩
  | _ =>
    cases h
    exact ⟨rfl, fun _ => rfl⟩

/-! Texts that are accepted -/

/-- Where the outline comes to its end outside all elements, the events nest. -/
theorem exists_closes_of_reads (h : s.Reads events t)
    (hfold : events.foldlM Outline.step ⟨s.opened.length, roots⟩ = .ok ⟨0, size⟩) :
    ∃ k, size = roots + k ∧ Closes k s.opened events := by
  induction h generalizing roots with
  | nil s =>
    obtain ⟨hdepth, hroots⟩ := Outline.mk.inj (Except.ok.inj hfold)
    rw [List.length_eq_zero_iff.mp hdepth]
    exact ⟨0, hroots.symm, .nil⟩
  | @cons s t u event events hnext hreads ih =>
    have hleaves := Source.leaves_of_next hnext
    -- All along, the depth of the outline is the number of elements that are open.
    have hcount : ∀ k, (if s.opened.length = 0 then roots + 1 else roots) + k =
        roots + if s.opened = [] then k + 1 else k := by
      intro k
      cases s.opened with
      | nil => exact Nat.add_right_comm roots 1 k
      | cons name opened => rfl
    rw [List.foldlM_cons] at hfold
    obtain ⟨o, hstep, hfold⟩ := bind_eq_ok_iff.mp hfold
    cases htag : event.isTag with
    | false =>
      obtain ⟨rfl, houter⟩ := step_of_not_isTag htag hstep
      have hopened : t.opened = s.opened := hleaves.eq_of_not_isTag htag
      rw [← hopened] at hfold houter ⊢
      obtain ⟨k, hk, hcloses⟩ := ih hfold
      exact ⟨k, hk, hcloses.plain htag fun hnil => houter (by simp [hnil])⟩
    | true =>
      cases event with
      | start name =>
        cases hstep
        have hopened : t.opened = name :: s.opened := hleaves
        rw [hopened] at ih
        obtain ⟨k, hk, hcloses⟩ := ih hfold
        exact ⟨_, hk.trans (hcount k), hcloses.start⟩
      | finish name =>
        cases hstep
        have hopened : s.opened = name :: t.opened := hleaves
        rw [hopened] at hfold ⊢
        obtain ⟨k, hk, hcloses⟩ := ih hfold
        exact ⟨k, hk, hcloses.finish⟩
      | empty name =>
        cases hstep
        have hopened : t.opened = s.opened := hleaves
        rw [hopened] at ih
        obtain ⟨k, hk, hcloses⟩ := ih hfold
        exact ⟨_, hk.trans (hcount k), hcloses.tree (.empty name)⟩
      | _ => cases htag

/-- A check that accepts a text has read it to its end. -/
theorem exists_reads_of_follow (h : follow size fuel o s = .ok ()) (hfuel : s.rest.length < fuel) :
    ∃ events t, s.Reads events t ∧ t.rest = [] ∧
      ∃ o', events.foldlM Outline.step o = .ok o' ∧ o'.finish = .ok () := by
  induction fuel generalizing o s with
  | zero => exact absurd hfuel (Nat.not_lt_zero _)
  | succ fuel ih =>
    rw [follow] at h
    split at h
    · cases h
    · rename_i hnext
      have hrest : s.rest = [] := by
        unfold Source.next at hnext
        split at hnext
        · assumption
        · rename_i chunk _
          cases hmarkup : s.markup chunk <;> simp [hmarkup, Except.map] at hnext
        · cases hnext
      exact ⟨[], s, .nil s, hrest, o, rfl, h⟩
    · rename_i event t hnext
      obtain ⟨o', hstep, hfollow⟩ := bind_eq_ok_iff.mp h
      have hlength := Source.length_of_next hnext
      obtain ⟨events, u, hreads, hend, last, hfold, hfinish⟩ := ih hfollow (by omega)
      refine ⟨event :: events, u, .cons hnext hreads, hend, last, ?_, hfinish⟩
      rw [List.foldlM_cons, hstep]
      exact hfold

theorem finish_eq_ok_iff : o.finish = .ok () ↔ o = ⟨0, 1⟩ := by
  obtain ⟨depth, roots⟩ := o
  simp only [Outline.finish, Outline.mk.injEq]
  split
  · simp_all
  · split
    · simp_all
    · split <;> simp_all

/-! The outline of events that nest -/

theorem foldlM_step_append (h : first.foldlM Outline.step o = .ok o') :
    (first ++ later).foldlM Outline.step o = later.foldlM Outline.step o' := by
  rw [List.foldlM_append, h]
  rfl

theorem step_of_isOuter (h : event.isOuter = true) : o.step event = .ok o := by
  cases event with
  | text content =>
    have hspace : content.all isOuterSpace = true := h
    simp [Outline.step, hspace]
  | start => cases h
  | finish => cases h
  | empty => cases h
  | data => cases h
  | _ => rfl

theorem step_inside {depth : Nat} (h : event.isTag = false) :
    Outline.step ⟨depth + 1, roots⟩ event = .ok ⟨depth + 1, roots⟩ := by
  cases event with
  | start => cases h
  | finish => cases h
  | empty => cases h
  | text => simp [Outline.step]
  | data => simp [Outline.step]
  | _ => rfl

/-- What stands in an element leaves it open. -/
theorem Nests.foldlM_step (h : Nests events) (depth roots : Nat) :
    events.foldlM Outline.step ⟨depth + 1, roots⟩ = .ok ⟨depth + 1, roots⟩ := by
  induction h generalizing depth with
  | nil => rfl
  | plain htag _ ih =>
    rw [List.foldlM_cons, step_inside htag]
    exact ih depth
  | empty name _ ih =>
    rw [List.foldlM_cons]
    exact ih depth
  | element name _ _ ihinner ih =>
    have hstart : Outline.step ⟨depth + 1, roots⟩ (.start name) = .ok ⟨depth + 2, roots⟩ := rfl
    rw [List.foldlM_cons, hstart]
    exact (foldlM_step_append (ihinner (depth + 1))).trans (ih depth)

theorem IsTree.foldlM_step (h : IsTree first) (roots : Nat) :
    first.foldlM Outline.step ⟨0, roots⟩ = .ok ⟨0, roots + 1⟩ := by
  cases h with
  | empty name => rfl
  | closed name hinner =>
    have hstart : Outline.step ⟨0, roots⟩ (.start name) = .ok ⟨1, roots + 1⟩ := rfl
    rw [List.foldlM_cons, hstart]
    exact foldlM_step_append (hinner.foldlM_step 0 (roots + 1))

theorem HasRoots.foldlM_step (h : HasRoots k events) (roots : Nat) :
    events.foldlM Outline.step ⟨0, roots⟩ = .ok ⟨0, roots + k⟩ := by
  induction h generalizing roots with
  | nil => rfl
  | outer houter _ ih =>
    rw [List.foldlM_cons, step_of_isOuter houter]
    exact ih roots
  | @root k first events hfirst _ ih =>
    have hmore := ih (roots + 1)
    rw [foldlM_step_append (hfirst.foldlM_step roots)]
    simpa [Nat.add_assoc, Nat.add_comm 1 k] using hmore

/-- The check accepts a text just if it can be read to its end, and its tags nest under one root. -/
theorem checkDocument_eq_ok_iff {text : String} : checkDocument text = .ok () ↔
    ∃ events t, (Source.ofText text.toList).Reads events t ∧ t.rest = [] ∧ HasRoots 1 events := by
  have hopened := Source.opened_ofText text.toList
  constructor
  · intro h
    obtain ⟨events, t, hreads, hend, o, hfold, hfinish⟩ :=
      exists_reads_of_follow h (Nat.lt_succ_self _)
    rw [finish_eq_ok_iff] at hfinish
    subst hfinish
    have hcounted : events.foldlM Outline.step ⟨(Source.ofText text.toList).opened.length, 0⟩ =
        .ok ⟨0, 1⟩ := by rwa [hopened]
    obtain ⟨k, hk, hcloses⟩ := exists_closes_of_reads hreads hcounted
    rw [hopened] at hcloses
    have hone : k = 1 := by omega
    exact ⟨events, t, hreads, hend, hone ▸ hcloses⟩
  · rintro ⟨events, t, hreads, hend, hroots⟩
    rw [checkDocument_of_reads hreads hend, hroots.foldlM_step]
    rfl

end WebService.Markup
