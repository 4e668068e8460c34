import WebService.Text.Split

/-!
Lists cut at separators, part by part, lists joined from parts, and parts found and replaced.
-/
namespace WebService.Text

variable {α : Type} {p : α → Bool} {c : α} {cs part rest : List α} {parts : List (List α)}

theorem not_mem_of_forall (h : ∀ d ∈ cs, p d = true) (hc : p c = false) : c ∉ cs := by
  intro hmem
  rw [h c hmem] at hc
  cases hc

theorem splitOn_cons (h : p c = true) : splitOn p (c :: cs) = [] :: splitOn p cs := by
  rw [splitOn, if_pos h]

theorem exists_splitOn_eq_cons (p : α → Bool) (cs : List α) :
    ∃ part parts, splitOn p cs = part :: parts := by
  cases cs with
  | nil => exact ⟨[], [], rfl⟩
  | cons c cs =>
    rw [splitOn]
    split
    · exact ⟨[], splitOn p cs, rfl⟩
    · split
      · exact ⟨[c], [], rfl⟩
      · exact ⟨_, _, rfl⟩

/-- What holds no separator belongs to the first part. -/
theorem splitOn_append (h : ∀ c ∈ cs, p c = false) (hrest : splitOn p rest = part :: parts) :
    splitOn p (cs ++ rest) = (cs ++ part) :: parts := by
  induction cs with
  | nil => exact hrest
  | cons c cs ih =>
    have hcs := ih fun c hc => h c (List.mem_cons_of_mem _ hc)
    rw [List.cons_append, splitOn, if_neg (by simp [h c List.mem_cons_self]), hcs]
    rfl

theorem splitOn_append_cons (h : ∀ c ∈ cs, p c = false) (hc : p c = true) :
    splitOn p (cs ++ c :: rest) = cs :: splitOn p rest := by
  have hrest : splitOn p (c :: rest) = [] :: splitOn p rest := splitOn_cons hc
  simpa using splitOn_append h hrest

theorem splitOn_of_forall (h : ∀ c ∈ cs, p c = false) : splitOn p cs = [cs] := by
  simpa using splitOn_append h (rfl : splitOn p [] = [[]])

theorem splitFirst?_eq_none_iff : splitFirst? p cs = none ↔ ∀ c ∈ cs, p c = false := by
  induction cs with
  | nil => simp [splitFirst?]
  | cons c cs ih =>
    cases hc : p c with
    | true => simp [splitFirst?, hc]
    | false => simp [splitFirst?, hc, ih]

theorem splitFirst?_eq_some_iff {before behind : List α} :
    splitFirst? p cs = some (before, behind) ↔
      ∃ c, p c = true ∧ cs = before ++ c :: behind ∧ ∀ d ∈ before, p d = false := by
  induction cs generalizing before with
  | nil => simp [splitFirst?]
  | cons c cs ih =>
    rw [splitFirst?]
    split
    · rename_i hc
      constructor
      · intro h
        cases h
        exact ⟨c, hc, rfl, List.forall_mem_nil _⟩
      · rintro ⟨d, -, hcs, hbefore⟩
        cases before with
        | nil =>
          cases hcs
          rfl
        | cons e before =>
          cases hcs
          exact absurd hc (by simp [hbefore c List.mem_cons_self])
    · rename_i hc
      constructor
      · intro h
        obtain ⟨⟨first, rest⟩, hsplit, hpair⟩ := Option.map_eq_some_iff.mp h
        cases hpair
        obtain ⟨d, hd, rfl, hfirst⟩ := ih.mp hsplit
        exact ⟨d, hd, rfl, List.forall_mem_cons.mpr ⟨Bool.eq_false_iff.mpr hc, hfirst⟩⟩
      · rintro ⟨d, hd, hcs, hbefore⟩
        cases before with
        | nil =>
          cases hcs
          exact absurd hd hc
        | cons e before =>
          cases hcs
          have hrest := ih.mpr ⟨d, hd, rfl, fun e he => hbefore e (List.mem_cons_of_mem _ he)⟩
          rw [hrest]
          rfl

theorem splitFirst?_append {behind : List α} (h : ∀ c ∈ behind, p c = false) (cs : List α) :
    splitFirst? p (cs ++ behind) =
      (splitFirst? p cs).map fun parts => (parts.1, parts.2 ++ behind) := by
  induction cs with
  | nil => exact splitFirst?_eq_none_iff.mpr h
  | cons c cs ih =>
    cases hc : p c with
    | true => simp [splitFirst?, hc]
    | false =>
      simp only [List.cons_append, splitFirst?, hc, Bool.false_eq_true, if_false, ih]
      cases splitFirst? p cs <;> rfl

/-- What stands before the first element that is `c`, or all if there is none. -/
theorem takeWhile_ne_eq_iff [DecidableEq α] : cs.takeWhile (· ≠ c) = part ↔
    c ∉ part ∧ ∃ rest, (rest = [] ∨ ∃ more, rest = c :: more) ∧ cs = part ++ rest := by
  constructor
  · rintro rfl
    refine ⟨fun hc => ?_, cs.dropWhile (· ≠ c), ?_, (List.takeWhile_append_dropWhile ..).symm⟩
    · have hall := List.all_takeWhile (p := (· ≠ c)) (l := cs)
      simpa using List.all_eq_true.mp hall c hc
    · have hhead := List.head?_dropWhile_not (· ≠ c) cs
      cases hrest : cs.dropWhile (· ≠ c) with
      | nil => exact Or.inl rfl
      | cons d more =>
        rw [hrest] at hhead
        have hd : d = c := by simpa using hhead
        exact Or.inr ⟨more, hd ▸ rfl⟩
  · rintro ⟨hfree, rest, hrest, rfl⟩
    have hpart : ∀ d ∈ part, decide (d ≠ c) = true := by
      rintro d hd
      exact decide_eq_true fun he => hfree (he ▸ hd)
    rw [List.takeWhile_append_of_pos hpart]
    rcases hrest with rfl | ⟨more, rfl⟩ <;> simp

/-! Nonempty parts -/

/-- Whether a list is some parts, none of them empty and none with a separator, with separators
between each two and any number of them around all. -/
inductive HasParts (p : α → Bool) : List α → List (List α) → Prop where
  | nil {cs : List α} (h : ∀ c ∈ cs, p c = true) : HasParts p cs []
  | cons {before part rest : List α} {parts : List (List α)} (hbefore : ∀ c ∈ before, p c = true)
      (hne : part ≠ []) (hpart : ∀ c ∈ part, p c = false)
      (hend : ∀ c, rest.head? = some c → p c = true) (hrest : HasParts p rest parts) :
      HasParts p (before ++ (part ++ rest)) (part :: parts)

theorem HasParts.append_left {before : List α} (hbefore : ∀ c ∈ before, p c = true)
    (h : HasParts p cs parts) : HasParts p (before ++ cs) parts := by
  cases h with
  | nil h => exact .nil (List.forall_mem_append.mpr ⟨hbefore, h⟩)
  | @cons behind part rest parts hbehind hne hpart hend hrest =>
    rw [← List.append_assoc]
    exact .cons (List.forall_mem_append.mpr ⟨hbefore, hbehind⟩) hne hpart hend hrest

theorem HasParts.cons_part (hne : part ≠ []) (hpart : ∀ c ∈ part, p c = false)
    (hend : ∀ c, rest.head? = some c → p c = true) (hrest : HasParts p rest parts) :
    HasParts p (part ++ rest) (part :: parts) :=
  .cons (List.forall_mem_nil _) hne hpart hend hrest

/-- One more element that is no separator goes to the first part, or is a part before it. -/
theorem HasParts.exists_cons (hc : p c = false) (h : HasParts p cs parts) :
    ∃ parts', HasParts p (c :: cs) parts' := by
  have hsingle : ∀ d ∈ [c], p d = false := fun d hd => List.mem_singleton.mp hd ▸ hc
  cases h with
  | nil h =>
    have hend : ∀ d, cs.head? = some d → p d = true := fun d hd => h d (List.mem_of_head? hd)
    exact ⟨_, .cons_part (List.cons_ne_nil c []) hsingle hend (.nil h)⟩
  | @cons before part rest parts hbefore hne hpart hend hrest =>
    cases before with
    | nil =>
      have hlead : ∀ d ∈ c :: part, p d = false := List.forall_mem_cons.mpr ⟨hc, hpart⟩
      exact ⟨_, .cons_part (List.cons_ne_nil c part) hlead hend hrest⟩
    | cons d before =>
      refine ⟨_, .cons_part (List.cons_ne_nil c []) hsingle (fun e he => ?_)
        (.cons hbefore hne hpart hend hrest)⟩
      cases he
      exact hbefore d List.mem_cons_self

theorem exists_hasParts (p : α → Bool) (cs : List α) : ∃ parts, HasParts p cs parts := by
  induction cs with
  | nil => exact ⟨[], .nil (List.forall_mem_nil _)⟩
  | cons c cs ih =>
    obtain ⟨parts, h⟩ := ih
    cases hc : p c with
    | true => exact ⟨parts, h.append_left fun d hd => List.mem_singleton.mp hd ▸ hc⟩
    | false => exact h.exists_cons hc

theorem filter_splitOn_append {before : List α} (h : ∀ c ∈ before, p c = true) (cs : List α) :
    (splitOn p (before ++ cs)).filter (fun part => !part.isEmpty) =
      (splitOn p cs).filter fun part => !part.isEmpty := by
  induction before with
  | nil => rfl
  | cons c before ih =>
    rw [List.cons_append, splitOn_cons (h c List.mem_cons_self)]
    exact ih fun d hd => h d (List.mem_cons_of_mem _ hd)

theorem HasParts.filter_splitOn (h : HasParts p cs parts) :
    (splitOn p cs).filter (fun part => !part.isEmpty) = parts := by
  induction h with
  | @nil cs h =>
    have hnone := filter_splitOn_append h []
    rwa [List.append_nil] at hnone
  | @cons before part rest parts hbefore hne hpart hend _ ih =>
    have hkept : ∀ others, (part :: others).filter (fun part => !part.isEmpty) =
        part :: others.filter fun part => !part.isEmpty :=
      fun others => List.filter_cons_of_pos (by simp [hne])
    rw [filter_splitOn_append hbefore]
    -- The part ends where the list does, or at the separator that comes next.
    cases rest with
    | nil =>
      rw [List.append_nil, splitOn_of_forall hpart, hkept, ← ih]
      rfl
    | cons c rest =>
      have hc : p c = true := hend c rfl
      rw [splitOn_cons hc] at ih
      rw [splitOn_append_cons hpart hc, hkept, ← ih]
      rfl

/-- A list has nonempty parts in one way only. -/
theorem hasParts_iff :
    HasParts p cs parts ↔ (splitOn p cs).filter (fun part => !part.isEmpty) = parts := by
  constructor
  · exact HasParts.filter_splitOn
  · rintro rfl
    obtain ⟨parts, h⟩ := exists_hasParts p cs
    exact h.filter_splitOn ▸ h

theorem hasParts_intercalate {separator : List α} (hne : separator ≠ [])
    (hseparator : ∀ c ∈ separator, p c = true)
    (h : ∀ part ∈ parts, part ≠ [] ∧ ∀ c ∈ part, p c = false) :
    HasParts p (separator.intercalate parts) parts := by
  induction parts with
  | nil => exact .nil (List.forall_mem_nil _)
  | cons part parts ih =>
    obtain ⟨hpart, hrest⟩ := List.forall_mem_cons.mp h
    have hparts := ih hrest
    cases parts with
    | nil =>
      have hlast : HasParts p (part ++ []) [part] :=
        .cons_part hpart.1 hpart.2 (by simp) (.nil (List.forall_mem_nil _))
      simpa using hlast
    | cons next others =>
      rw [List.intercalate_cons_cons, List.append_assoc]
      refine HasParts.cons_part hpart.1 hpart.2 (fun c hc => ?_) (hparts.append_left hseparator)
      cases separator with
      | nil => exact absurd rfl hne
      | cons d separator =>
        cases hc
        exact hseparator c List.mem_cons_self

/-- Parts that each stand behind a separator are the nonempty parts of the list, whether or not it
ends in one more separator. -/
theorem filter_splitOn_flatMap {tail : List α} (hc : p c = true)
    (h : ∀ part ∈ parts, part ≠ [] ∧ ∀ d ∈ part, p d = false) (htail : tail = [] ∨ tail = [c]) :
    (splitOn p (parts.flatMap (c :: ·) ++ tail)).filter (fun part => !part.isEmpty) = parts := by
  have htail' : ∀ d ∈ tail, p d = true := by
    rcases htail with rfl | rfl <;> simp [hc]
  apply HasParts.filter_splitOn
  induction parts with
  | nil => exact .nil htail'
  | cons part parts ih =>
    obtain ⟨hpart, hrest⟩ := List.forall_mem_cons.mp h
    rw [List.flatMap_cons, List.append_assoc]
    have hbefore : ∀ d ∈ [c], p d = true := fun d hd => List.mem_singleton.mp hd ▸ hc
    refine HasParts.cons hbefore hpart.1 hpart.2 (fun d hd => ?_) (ih hrest)
    cases parts with
    | nil => exact htail' d (List.mem_of_head? hd)
    | cons next others =>
      cases hd
      exact hc

/-- A list joined from parts, none of them empty, is as long as there are parts or longer. -/
theorem length_le_length_flatMap {β : Type} {f : β → List α} (h : ∀ b, f b ≠ []) (bs : List β) :
    bs.length ≤ (bs.flatMap f).length := by
  induction bs with
  | nil => exact Nat.le_refl _
  | cons b bs ih =>
    have hb : 0 < (f b).length := List.length_pos_iff.mpr (h b)
    rw [List.flatMap_cons, List.length_append, List.length_cons]
    omega

/-! Parts joined again -/

theorem forall_of_mem_splitOn (h : part ∈ splitOn p cs) : ∀ d ∈ part, p d = false := by
  induction cs generalizing part with
  | nil =>
    rw [splitOn, List.mem_singleton] at h
    rw [h]
    exact List.forall_mem_nil _
  | cons d cs ih =>
    by_cases hd : p d = true
    · rw [splitOn_cons hd] at h
      rcases List.mem_cons.mp h with rfl | h
      · exact List.forall_mem_nil _
      · exact ih h
    · obtain ⟨first, others, hcs⟩ := exists_splitOn_eq_cons p cs
      rw [splitOn, if_neg hd, hcs] at h
      rcases List.mem_cons.mp h with rfl | h
      · have hfirst := ih (hcs ▸ List.mem_cons_self)
        exact List.forall_mem_cons.mpr ⟨Bool.eq_false_iff.mpr hd, hfirst⟩
      · exact ih (hcs ▸ List.mem_cons_of_mem _ h)

theorem joinWith_cons_cons (separator : List α) (c : α) (part : List α) (parts : List (List α)) :
    joinWith separator ((c :: part) :: parts) = c :: joinWith separator (part :: parts) := by
  cases parts with
  | nil => rfl
  | cons next others => rfl

theorem mem_joinWith {separator : List α} (h : c ∈ joinWith separator parts) :
    c ∈ separator ∨ ∃ part ∈ parts, c ∈ part := by
  induction parts with
  | nil => cases h
  | cons part parts ih =>
    cases parts with
    | nil => exact Or.inr ⟨part, List.mem_cons_self, h⟩
    | cons next others =>
      rw [joinWith, List.mem_append, List.mem_append] at h
      · rcases h with (hpart | hseparator) | hrest
        · exact Or.inr ⟨part, List.mem_cons_self, hpart⟩
        · exact Or.inl hseparator
        · rcases ih hrest with hseparator | ⟨found, hfound, hc⟩
          · exact Or.inl hseparator
          · exact Or.inr ⟨found, List.mem_cons_of_mem _ hfound, hc⟩
      · exact List.cons_ne_nil _ _

theorem joinWith_splitOn [DecidableEq α] (c : α) (cs : List α) :
    joinWith [c] (splitOn (· = c) cs) = cs := by
  induction cs with
  | nil => rfl
  | cons d cs ih =>
    obtain ⟨part, parts, hcs⟩ := exists_splitOn_eq_cons (· = c) cs
    by_cases hd : d = c
    · subst hd
      rw [splitOn_cons (by simp), hcs]
      rw [hcs] at ih
      exact congrArg (d :: ·) ih
    · rw [splitOn, if_neg (by simpa using hd), hcs]
      rw [hcs] at ih
      exact (joinWith_cons_cons [c] d part parts).trans (congrArg (d :: ·) ih)

theorem splitOn_joinWith (hc : p c = true) (hne : parts ≠ [])
    (h : ∀ part ∈ parts, ∀ d ∈ part, p d = false) : splitOn p (joinWith [c] parts) = parts := by
  induction parts with
  | nil => exact absurd rfl hne
  | cons part parts ih =>
    have hpart := h part List.mem_cons_self
    cases parts with
    | nil => exact splitOn_of_forall hpart
    | cons next others =>
      have hrest := ih (List.cons_ne_nil _ _) fun part hm => h part (List.mem_cons_of_mem _ hm)
      have hjoin : joinWith [c] (part :: next :: others) =
          part ++ c :: joinWith [c] (next :: others) := List.append_assoc part [c] _
      rw [hjoin, splitOn_append_cons hpart hc, hrest]

/-- Whether a list is some parts with one element between each two, which stands in none of them. -/
def IsCut (c : α) (cs : List α) (parts : List (List α)) : Prop :=
  cs = joinWith [c] parts ∧ parts ≠ [] ∧ ∀ part ∈ parts, c ∉ part

/-- A list can be cut in one way only. -/
theorem isCut_iff [DecidableEq α] : IsCut c cs parts ↔ splitOn (· = c) cs = parts := by
  constructor
  · rintro ⟨rfl, hne, hparts⟩
    refine splitOn_joinWith (by simp) hne ?_
    intro part hpart d hd
    apply decide_eq_false
    rintro rfl
    exact hparts part hpart hd
  · rintro rfl
    obtain ⟨first, others, hparts⟩ := exists_splitOn_eq_cons (· = c) cs
    refine ⟨(joinWith_splitOn c cs).symm, hparts ▸ List.cons_ne_nil _ _, ?_⟩
    intro part hpart hc
    simpa using forall_of_mem_splitOn hpart c hc

/-! Parts found and replaced -/

theorem after?_eq_some_iff [BEq α] [LawfulBEq α] {lead : List α} :
    after? lead cs = some rest ↔ cs = lead ++ rest := by
  unfold after?
  split
  · rename_i hlead
    obtain ⟨behind, rfl⟩ := List.isPrefixOf_iff_prefix.mp hlead
    simp
  · rename_i hlead
    refine iff_of_false (by simp) ?_
    rintro rfl
    exact hlead (List.isPrefixOf_iff_prefix.mpr (List.prefix_append lead rest))

/-- A part is found where its first element is found, if it stands there. -/
theorem findAfter?_append [BEq α] [LawfulBEq α] {before lead : List α} (h : c ∉ before) :
    findAfter? (c :: lead) (before ++ (c :: lead ++ rest)) = some rest := by
  induction before with
  | nil => simp [findAfter?]
  | cons d before ih =>
    rw [List.mem_cons, not_or] at h
    rw [List.cons_append, findAfter?, if_neg (by simp [h.1])]
    exact ih h.2

theorem replaceFrom_length_append [BEq α] (old new part cs : List α) :
    replaceFrom old new part.length (part ++ cs) = replaceAll old new cs := by
  induction part with
  | nil => rfl
  | cons d part ih => exact ih

section

variable [BEq α] [LawfulBEq α] {old : List α}

theorem replaceAll_cons_of_not_start (h : ¬ old <+: c :: cs) (new : List α) :
    replaceAll old new (c :: cs) = c :: replaceAll old new cs := by
  rw [← List.isPrefixOf_iff_prefix] at h
  rw [replaceAll, replaceFrom, if_neg h, replaceAll]

theorem replaceAll_append_self (h : old ≠ []) (new cs : List α) :
    replaceAll old new (old ++ cs) = new ++ replaceAll old new cs := by
  cases old with
  | nil => exact absurd rfl h
  | cons d old =>
    have hstart : (d :: old).isPrefixOf (d :: (old ++ cs)) = true :=
      List.isPrefixOf_iff_prefix.mpr (List.prefix_append (d :: old) cs)
    rw [replaceAll, List.cons_append, replaceFrom, if_pos hstart, List.length_cons,
      Nat.add_sub_cancel, replaceFrom_length_append]

/-- Nothing is replaced in a part where the old list does not even begin. -/
theorem replaceAll_append_of_forall
    (h : ∀ behind, behind ≠ [] → behind <:+ part → ¬ old <+: behind ++ cs) (new : List α) :
    replaceAll old new (part ++ cs) = part ++ replaceAll old new cs := by
  induction part with
  | nil => rfl
  | cons d part ih =>
    have hstart : ¬ old <+: d :: (part ++ cs) :=
      h (d :: part) (List.cons_ne_nil _ _) List.suffix_rfl
    have hrest := ih fun behind hne hbehind =>
      h behind hne (hbehind.trans (List.suffix_cons d part))
    rw [List.cons_append, replaceAll_cons_of_not_start hstart, hrest]
    rfl

end

/-- Where a single element is replaced, each element is looked at by itself. -/
theorem replaceAll_singleton [BEq α] [LawfulBEq α] [DecidableEq α] (new : List α) :
    replaceAll [c] new cs = cs.flatMap fun d => if d = c then new else [d] := by
  unfold replaceAll
  induction cs with
  | nil => rfl
  | cons d cs ih =>
    rw [replaceFrom, List.flatMap_cons]
    by_cases hd : d = c
    · simpa [hd] using ih
    · simpa [hd, Ne.symm hd] using ih

end WebService.Text
