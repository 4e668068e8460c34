import Mathlib.Data.List.Basic
import Mathlib.Data.List.TakeWhile
import WebService.Proofs.Number.Integer
import WebService.Text.Blank

/-!
Text and the white space around it.
-/
namespace WebService.Text

variable {c : Char} {cs inner before behind : List Char}

theorem isBlank_of_isDigit (h : c.isDigit = true) : isBlank c = false := by
  have hbounds := Number.toNat_of_isDigit h
  simp [isBlank, inRanges, blankRanges]
  omega

/-- Whether a text is another one between white space, and this has none at its own ends. -/
structure Trims (cs inner : List Char) : Prop where
  around : ∃ before behind, (∀ c ∈ before, isBlank c = true) ∧ (∀ c ∈ behind, isBlank c = true) ∧
    cs = before ++ (inner ++ behind)
  head : ∀ c, inner.head? = some c → isBlank c = false
  last : ∀ c, inner.getLast? = some c → isBlank c = false

theorem trim_append_left (h : ∀ c ∈ before, isBlank c = true) :
    trim (before ++ cs) = trim cs := by
  rw [trim, List.dropWhile_append_of_pos h, trim]

theorem trim_append_right (h : ∀ c ∈ behind, isBlank c = true) :
    trim (cs ++ behind) = trim cs := by
  have hreverse : ∀ c ∈ behind.reverse, isBlank c = true := fun c hc => h c (List.mem_reverse.mp hc)
  rw [trim, trim, List.dropWhile_append]
  split
  · rename_i hempty
    rw [List.isEmpty_iff.mp hempty, List.dropWhile_eq_nil_iff.mpr h]
  · rw [List.reverse_append, List.dropWhile_append_of_pos hreverse]

theorem dropWhile_of_head? (h : ∀ c, cs.head? = some c → isBlank c = false) :
    cs.dropWhile isBlank = cs := by
  cases cs with
  | nil => rfl
  | cons c cs => rw [List.dropWhile_cons, h c rfl, if_neg Bool.false_ne_true]

theorem of_head?_dropWhile (h : (cs.dropWhile isBlank).head? = some c) :
    isBlank c = false := by
  have hnot := List.head?_dropWhile_not isBlank cs
  rw [h] at hnot
  exact hnot

theorem trims_trim (cs : List Char) : Trims cs (trim cs) := by
  generalize hmiddle : cs.dropWhile isBlank = middle
  have htrim : trim cs = (middle.reverse.dropWhile isBlank).reverse := hmiddle ▸ rfl
  have hparts : middle = trim cs ++ (middle.reverse.takeWhile isBlank).reverse := by
    rw [htrim, ← List.reverse_append, List.takeWhile_append_dropWhile, List.reverse_reverse]
  refine ⟨⟨cs.takeWhile isBlank, (middle.reverse.takeWhile isBlank).reverse, ?_, ?_, ?_⟩, ?_, ?_⟩
  · exact fun c hc => List.mem_takeWhile_imp hc
  · exact fun c hc => List.mem_takeWhile_imp (List.mem_reverse.mp hc)
  · rw [← hparts, ← hmiddle, List.takeWhile_append_dropWhile]
  · intro c hc
    have hhead : middle.head? = some c := by
      rw [hparts, List.head?_append, hc]
      rfl
    rw [← hmiddle] at hhead
    exact of_head?_dropWhile hhead
  · intro c hc
    rw [htrim, List.getLast?_reverse] at hc
    exact of_head?_dropWhile hc

theorem Trims.trim_eq (h : Trims cs inner) : trim cs = inner := by
  obtain ⟨⟨before, behind, hbefore, hbehind, rfl⟩, hhead, hlast⟩ := h
  have hlast' : inner.reverse.dropWhile isBlank = inner.reverse :=
    dropWhile_of_head? fun c hc => hlast c (by rwa [List.head?_reverse] at hc)
  rw [trim_append_left hbefore, trim_append_right hbehind, trim, dropWhile_of_head? hhead, hlast',
    List.reverse_reverse]

theorem trims_iff : Trims cs inner ↔ trim cs = inner :=
  ⟨Trims.trim_eq, fun h => h ▸ trims_trim cs⟩

theorem trim_eq_nil_iff : trim cs = [] ↔ ∀ c ∈ cs, isBlank c = true := by
  constructor
  · intro h
    obtain ⟨before, behind, hbefore, hbehind, hcs⟩ := (trims_iff.mpr h).around
    rw [hcs]
    exact List.forall_mem_append.mpr ⟨hbefore, hbehind⟩
  · intro h
    have htrim : trim ([] ++ cs) = trim [] := trim_append_right h
    exact htrim

/-- Behind a text without white space at its ends only white space at the end is removed. -/
theorem exists_trim_append {lead : List Char} (hne : lead ≠ [])
    (hhead : ∀ c, lead.head? = some c → isBlank c = false)
    (hlast : ∀ c, lead.getLast? = some c → isBlank c = false) (cs : List Char) :
    ∃ body blank, (∀ c ∈ blank, isBlank c = true) ∧ cs = body ++ blank ∧
      trim (lead ++ cs) = lead ++ body := by
  have hends : ∀ body blank, (∀ c ∈ blank, isBlank c = true) →
      (∀ c, (lead ++ body).getLast? = some c → isBlank c = false) →
      trim (lead ++ (body ++ blank)) = lead ++ body := by
    intro body blank hblank hbody
    refine Trims.trim_eq ⟨⟨[], blank, List.forall_mem_nil _, hblank, by simp⟩, ?_, hbody⟩
    intro c hc
    cases lead with
    | nil => exact absurd rfl hne
    | cons first others => exact hhead c hc
  by_cases hcs : ∀ c ∈ cs, isBlank c = true
  · exact ⟨[], cs, hcs, rfl, hends [] cs hcs (by simpa using hlast)⟩
  · obtain ⟨⟨before, blank, -, hblank, hparts⟩, -, hinner⟩ := trims_trim cs
    have htrim : trim cs ≠ [] := mt trim_eq_nil_iff.mp hcs
    rw [← List.append_assoc] at hparts
    have hend : ∀ c, (lead ++ (before ++ trim cs)).getLast? = some c → isBlank c = false := by
      intro c hc
      rw [← List.append_assoc, List.getLast?_append_of_ne_nil _ htrim] at hc
      exact hinner c hc
    refine ⟨before ++ trim cs, blank, hblank, hparts, ?_⟩
    calc trim (lead ++ cs) = trim (lead ++ (before ++ trim cs ++ blank)) := by rw [← hparts]
      _ = lead ++ (before ++ trim cs) := hends _ blank hblank hend

end WebService.Text
