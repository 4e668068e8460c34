import Mathlib.Data.List.Forall2

/-!
Chains of steps that may fail: what their success says of each step, and which of several faults
they come to.
-/
namespace WebService

variable {ε α β : Type}

theorem pure_eq_ok_iff {a b : α} : (pure a : Except ε α) = .ok b ↔ b = a := by
  constructor
  · intro h
    cases h
    rfl
  · rintro rfl
    rfl

theorem bind_eq_ok_iff {x : Except ε α} {f : α → Except ε β} {b : β} :
    (x >>= f) = .ok b ↔ ∃ a, x = .ok a ∧ f a = .ok b := by
  cases x with
  | error e =>
    constructor
    · intro h
      cases h
    · rintro ⟨a, h, -⟩
      cases h
  | ok a =>
    constructor
    · exact fun h => ⟨a, rfl, h⟩
    · rintro ⟨a', h, hf⟩
      cases h
      exact hf

/-- A step that is only a check gives nothing to the next. -/
theorem check_bind_eq_ok_iff {x : Except ε Unit} {y : Except ε β} {b : β} :
    (x >>= fun _ => y) = .ok b ↔ x = .ok () ∧ y = .ok b := by
  rw [bind_eq_ok_iff]
  constructor
  · rintro ⟨⟨⟩, hx, hy⟩
    exact ⟨hx, hy⟩
  · rintro ⟨hx, hy⟩
    exact ⟨(), hx, hy⟩

theorem forM_eq_ok_iff {l : List α} {f : α → Except ε Unit} :
    l.forM f = .ok () ↔ ∀ a ∈ l, f a = .ok () := by
  induction l with
  | nil => simp [List.forM, pure, Except.pure]
  | cons a l ih => rw [List.forM, check_bind_eq_ok_iff, ih, List.forall_mem_cons]

theorem mapM_eq_ok_iff {l : List α} {f : α → Except ε β} {bs : List β} :
    l.mapM f = .ok bs ↔ List.Forall₂ (fun a b => f a = .ok b) l bs := by
  induction l generalizing bs with
  | nil => rw [List.mapM_nil, pure_eq_ok_iff, List.forall₂_nil_left_iff]
  | cons a l ih =>
    simp only [List.mapM_cons, bind_eq_ok_iff, pure_eq_ok_iff, ih, List.forall₂_cons_left_iff]
    constructor
    · rintro ⟨b, hb, others, hothers, rfl⟩
      exact ⟨b, others, hb, hothers, rfl⟩
    · rintro ⟨b, others, hb, hothers, rfl⟩
      exact ⟨b, hb, others, hothers, rfl⟩

/-- What a fold starts with and each of its steps keeps, its result has as well. -/
theorem of_foldlM_eq_ok {P : β → Prop} {f : β → α → Except ε β} {l : List α} {b c : β}
    (hstep : ∀ b a c, P b → f b a = .ok c → P c) (hb : P b) (h : l.foldlM f b = .ok c) : P c := by
  induction l generalizing b with
  | nil =>
    cases h
    exact hb
  | cons a l ih =>
    rw [List.foldlM_cons, bind_eq_ok_iff] at h
    obtain ⟨next, hnext, hrest⟩ := h
    exact ih (hstep b a next hb hnext) hrest

/-! The first of several faults -/

/-- Whether a chain comes to its end, or else to the first of the faults. -/
def Reports (x : Except ε α) : List ε → Prop
  | [] => ∃ a, x = .ok a
  | fault :: _ => x = .error fault

section

variable {x : Except ε α} {faults later : List ε} {fault : ε}

theorem reports_pure (a : α) : Reports (pure a : Except ε α) [] := ⟨a, rfl⟩

/-- The faults of a later step only count if the earlier ones have none. -/
theorem Reports.bind {f : α → Except ε β} (hx : Reports x faults)
    (hf : ∀ a, Reports (f a) later) : Reports (x >>= f) (faults ++ later) := by
  cases faults with
  | nil =>
    obtain ⟨a, rfl⟩ := hx
    exact hf a
  | cons fault faults =>
    have hx : x = .error fault := hx
    rw [hx]
    rfl

theorem Reports.bind_pure (h : Reports x faults) (f : α → β) :
    Reports (x >>= fun a => pure (f a)) faults := by
  have hpure := h.bind fun a => reports_pure (f a)
  rwa [List.append_nil] at hpure

theorem Reports.map (h : Reports x faults) (f : α → β) : Reports (x.map f) faults := by
  cases x with
  | error _ => exact h.bind_pure f
  | ok _ => exact h.bind_pure f

theorem reports_forM {f : α → Except ε Unit} {faults : α → List ε}
    (h : ∀ a, Reports (f a) (faults a)) (l : List α) : Reports (l.forM f) (l.flatMap faults) := by
  induction l with
  | nil => exact reports_pure ()
  | cons a l ih =>
    rw [List.forM, List.flatMap_cons]
    exact (h a).bind fun _ => ih

theorem reports_mapM {f : α → Except ε β} {faults : α → List ε}
    (h : ∀ a, Reports (f a) (faults a)) (l : List α) : Reports (l.mapM f) (l.flatMap faults) := by
  induction l with
  | nil => exact reports_pure []
  | cons a l ih =>
    rw [List.mapM_cons, List.flatMap_cons]
    exact (h a).bind fun b => ih.bind_pure (b :: ·)

theorem Reports.exists_eq_ok_iff (h : Reports x faults) : (∃ a, x = .ok a) ↔ faults = [] := by
  cases faults with
  | nil => exact ⟨fun _ => rfl, fun _ => h⟩
  | cons fault faults =>
    have hx : x = .error fault := h
    simp [hx]

theorem Reports.eq_error_iff (h : Reports x faults) :
    x = .error fault ↔ faults.head? = some fault := by
  cases faults with
  | nil =>
    obtain ⟨a, rfl⟩ := h
    simp
  | cons first faults =>
    have hx : x = .error first := h
    simp [hx]

end

end WebService
