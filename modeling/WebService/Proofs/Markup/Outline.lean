import WebService.Proofs.Markup.Nesting

/-!
What the check of documents accepts, event by event: one element, with nothing around it but what
may stand outside. The depth in the outline is the number of elements that are open, so that an end
tag always finds one to close.
-/
namespace WebService.Markup

variable {source : String} {event : Event} {before events : List Event} {cs name : List Char}
  {opened opened' : List (List Char)} {o o' : Outline} {s t : Source} {k : Nat}

/-! One root -/

/-- The events of a document: those of one element, and before and behind it only such as may stand
outside. -/
def IsRooted (events : List Event) : Prop :=
  ∃ before root behind, events = before ++ (root ++ behind) ∧
    (∀ event ∈ before, event.isOuter = true) ∧ IsTree root ∧
    ∀ event ∈ behind, event.isOuter = true

theorem HasRoots.outer_append (h : ∀ event ∈ before, event.isOuter = true)
    (hevents : HasRoots k events) : HasRoots k (before ++ events) := by
  induction before with
  | nil => exact hevents
  | cons event before ih =>
    rw [List.forall_mem_cons] at h
    exact .outer h.1 (ih h.2)

theorem HasRoots.isOuter (h : HasRoots 0 events) : ∀ event ∈ events, event.isOuter = true := by
  generalize hk : 0 = k at h
  induction h with
  | nil => exact List.forall_mem_nil _
  | outer houter _ ih => exact List.forall_mem_cons.mpr ⟨houter, ih hk⟩
  | root => cases hk

/-- The first of several roots, and what stands before and behind it. -/
theorem HasRoots.exists_root (h : HasRoots (k + 1) events) :
    ∃ before root later, events = before ++ (root ++ later) ∧
      (∀ event ∈ before, event.isOuter = true) ∧ IsTree root ∧ HasRoots k later := by
  generalize hk : k + 1 = n at h
  induction h with
  | nil => cases hk
  | @outer n event events houter _ ih =>
    obtain ⟨before, root, later, rfl, hbefore, hroot, hlater⟩ := ih hk
    exact ⟨event :: before, root, later, rfl, List.forall_mem_cons.mpr ⟨houter, hbefore⟩, hroot,
      hlater⟩
  | @root n first events hfirst hevents =>
    cases hk
    exact ⟨[], first, events, rfl, List.forall_mem_nil _, hfirst, hevents⟩

theorem hasRoots_one_iff : HasRoots 1 events ↔ IsRooted events := by
  constructor
  · intro h
    obtain ⟨before, root, later, rfl, hbefore, hroot, hlater⟩ := h.exists_root
    exact ⟨before, root, later, rfl, hbefore, hroot, hlater.isOuter⟩
  · rintro ⟨before, root, behind, rfl, hbefore, hroot, hbehind⟩
    have hrest : HasRoots 0 (behind ++ []) := .outer_append hbehind .nil
    rw [List.append_nil] at hrest
    exact .outer_append hbefore (.root hroot hrest)

/-! The depth along the way -/

/-- The outlines that the check of a text comes to, each with the source that it reads on from. -/
inductive Reached (cs : List Char) : Outline → Source → Prop where
  | start : Reached cs ⟨0, 0⟩ (Source.ofText cs)
  | step {o o' : Outline} {s t : Source} {event : Event} (h : Reached cs o s)
      (hnext : s.next = .ok (some (event, t))) (hstep : o.step event = .ok o') : Reached cs o' t

/-- From each of them the check goes on. -/
theorem Reached.checkDocument_eq (h : Reached source.toList o s) :
    ∃ size fuel, s.rest.length < fuel ∧ checkDocument source = follow size fuel o s := by
  induction h with
  | start => exact ⟨_, _, Nat.lt_succ_self _, rfl⟩
  | @step o o' s t event _ hnext hstep ih =>
    obtain ⟨size, fuel, hfuel, hcheck⟩ := ih
    obtain ⟨left, rfl⟩ : ∃ left, fuel = left + 1 := ⟨fuel - 1, by omega⟩
    have hlength := Source.length_of_next hnext
    refine ⟨size, left, by omega, ?_⟩
    simp only [hcheck, follow, hnext, hstep]
    rfl

theorem depth_of_step (hleaves : event.Leaves opened opened') (hdepth : o.depth = opened.length)
    (h : o.step event = .ok o') : o'.depth = opened'.length := by
  cases htag : event.isTag with
  | false =>
    obtain ⟨rfl, -⟩ := step_of_not_isTag htag h
    rw [hdepth, hleaves.eq_of_not_isTag htag]
  | true =>
    cases event with
    | start name =>
      cases h
      have hopened : opened' = name :: opened := hleaves
      rw [hopened, List.length_cons, hdepth]
    | finish name =>
      cases h
      have hopened : opened = name :: opened' := hleaves
      show o.depth - 1 = opened'.length
      rw [hdepth, hopened, List.length_cons, Nat.add_sub_cancel]
    | empty name =>
      cases h
      have hopened : opened' = opened := hleaves
      rw [hopened]
      exact hdepth
    | _ => cases htag

/-- All along, the depth is the number of elements that are open. -/
theorem Reached.depth_eq (h : Reached cs o s) : o.depth = s.opened.length := by
  induction h with
  | start =>
    rw [Source.opened_ofText]
    rfl
  | step _ hnext hstep ih => exact depth_of_step (Source.leaves_of_next hnext) ih hstep

theorem Reached.depth_pos (h : Reached cs o s) (hnext : s.next = .ok (some (.finish name, t))) :
    0 < o.depth := by
  have hopened : s.opened = name :: t.opened := Source.leaves_of_next hnext
  rw [h.depth_eq, hopened]
  exact Nat.succ_pos _

/-! What is let through -/

/-- Whether a text can be read to its end, as the events of a document. -/
def ReadsRooted (source : String) : Prop :=
  ∃ events behind, (Source.ofText source.toList).Reads events behind ∧ behind.rest = [] ∧
    IsRooted events

theorem documentText_eq_ok_iff {text : String} :
    documentText source = .ok text ↔ text = source ∧ ReadsRooted source := by
  rw [documentText, check_bind_eq_ok_iff, pure_eq_ok_iff, checkDocument_eq_ok_iff, and_comm]
  simp only [hasRoots_one_iff, ReadsRooted]

/-- A text is let through as it stands just if it can be read to its end as the events of one
element, with white space, comments, instructions and declarations around it. All other texts are
refused. Wherever the check comes to an end tag, in whatever text, the depth is above zero. -/
theorem document_iff_rooted (source : String) :
    (∀ text, documentText source = .ok text ↔ text = source ∧ ReadsRooted source) ∧
    (¬ ReadsRooted source → ∃ error, documentText source = .error error) ∧
    ∀ o s, Reached source.toList o s →
      (∃ size fuel, s.rest.length < fuel ∧ checkDocument source = follow size fuel o s) ∧
      ∀ name t, s.next = .ok (some (.finish name, t)) → 0 < o.depth := by
  refine ⟨fun text => documentText_eq_ok_iff, fun hnone => ?_,
    fun o s h => ⟨h.checkDocument_eq, fun name t => h.depth_pos⟩⟩
  cases hdocument : documentText source with
  | error error => exact ⟨error, rfl⟩
  | ok text => exact absurd (documentText_eq_ok_iff.mp hdocument).2 hnone

/-- White space, a declaration and a comment may stand around the root, character data may not. -/
example : documentText "<?xml version=\"1.0\"?> <a><![CDATA[<]]><b/></a><!-- -->" =
      .ok "<?xml version=\"1.0\"?> <a><![CDATA[<]]><b/></a><!-- -->" ∧
    documentText "<a/><![CDATA[<]]>" = .error .dataOutside := ⟨rfl, rfl⟩

end WebService.Markup
