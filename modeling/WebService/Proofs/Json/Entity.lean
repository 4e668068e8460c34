import WebService.Proofs.Json.Escaped

/-!
Entities of HTML. An escaped text has none of the special characters but for the ampersands that
begin its entities, and it tells the text that it was made from.
-/
namespace WebService.Json

variable {c : Char} {cs : List Char} {s : String}

/-- The characters that become entities. -/
def entityMarks : List Char := ['&', '<', '>', '"', '\'']

/-- The entities of these characters. -/
def entities : List (List Char) :=
  ["&amp;".toList, "&lt;".toList, "&gt;".toList, "&quot;".toList, "&#x27;".toList]

/-- The text with every entity replaced by its character. -/
def fromEntities : List Char → List Char
  | '&' :: 'a' :: 'm' :: 'p' :: ';' :: cs => '&' :: fromEntities cs
  | '&' :: 'l' :: 't' :: ';' :: cs => '<' :: fromEntities cs
  | '&' :: 'g' :: 't' :: ';' :: cs => '>' :: fromEntities cs
  | '&' :: 'q' :: 'u' :: 'o' :: 't' :: ';' :: cs => '"' :: fromEntities cs
  | '&' :: '#' :: 'x' :: '2' :: '7' :: ';' :: cs => '\'' :: fromEntities cs
  | c :: cs => c :: fromEntities cs
  | [] => []

def unescapeHtml (s : String) : String := String.ofList (fromEntities s.toList)

/-- Whether a text can stand inside HTML: no special character, but for ampersands that begin one of
the entities. -/
structure IsHtmlSafe (cs : List Char) : Prop where
  plain : ∀ c ∈ cs, c ≠ '<' ∧ c ≠ '>' ∧ c ≠ '"' ∧ c ≠ '\''
  entity : ∀ behind, '&' :: behind <:+ cs → ∃ e ∈ entities, e <+: '&' :: behind

theorem entityOf_of_not_mem (h : c ∉ entityMarks) : entityOf c = [c] := by
  simp only [entityMarks, List.mem_cons, List.not_mem_nil, or_false, not_or] at h
  obtain ⟨hand, hless, hgreater, hquote, happ⟩ := h
  simp [entityOf, hand, hless, hgreater, hquote, happ]

theorem fromEntities_cons (h : c ≠ '&') : fromEntities (c :: cs) = c :: fromEntities cs := by
  rw [fromEntities]
  all_goals
    intros
    simp_all

theorem fromEntities_entityOf (c : Char) (cs : List Char) :
    fromEntities (entityOf c ++ cs) = c :: fromEntities cs := by
  by_cases hc : c ∈ entityMarks
  · simp only [entityMarks, List.mem_cons, List.not_mem_nil, or_false] at hc
    rcases hc with rfl | rfl | rfl | rfl | rfl
    all_goals rfl
  · rw [entityOf_of_not_mem hc]
    exact fromEntities_cons fun he => hc (he ▸ List.mem_cons_self)

theorem unescapeHtml_escapeHtml (s : String) : unescapeHtml (escapeHtml s) = s := by
  have hchars : ∀ cs : List Char, fromEntities (cs.flatMap entityOf) = cs := by
    intro cs
    induction cs with
    | nil => rfl
    | cons c cs ih => rw [List.flatMap_cons, fromEntities_entityOf, ih]
  rw [unescapeHtml, escapeHtml, String.toList_ofList, hchars, String.ofList_toList]

/-- A text without special characters is left as it is. -/
theorem escapeHtml_of_forall (h : ∀ c ∈ s.toList, c ∉ entityMarks) : escapeHtml s = s := by
  have hchars : s.toList.flatMap entityOf = s.toList := by
    rw [List.flatMap_congr fun c hc => entityOf_of_not_mem (h c hc), List.flatMap_singleton']
  rw [escapeHtml, hchars, String.ofList_toList]

theorem isHtmlSafe_nil : IsHtmlSafe [] := by
  refine ⟨List.forall_mem_nil _, ?_⟩
  intro behind h
  cases List.eq_nil_of_suffix_nil h

theorem IsHtmlSafe.cons (hc : c ∉ entityMarks) (h : IsHtmlSafe cs) : IsHtmlSafe (c :: cs) := by
  simp only [entityMarks, List.mem_cons, List.not_mem_nil, or_false, not_or] at hc
  refine ⟨List.forall_mem_cons.mpr ⟨hc.2, h.plain⟩, ?_⟩
  intro behind hbehind
  rcases List.suffix_cons_iff.mp hbehind with heq | hlater
  · exact absurd (List.cons.inj heq).1.symm hc.1
  · exact h.entity behind hlater

theorem IsHtmlSafe.append {before : List Char} (hbefore : ∀ c ∈ before, c ∉ entityMarks)
    (h : IsHtmlSafe cs) : IsHtmlSafe (before ++ cs) := by
  induction before with
  | nil => exact h
  | cons c before ih =>
    obtain ⟨hc, hrest⟩ := List.forall_mem_cons.mp hbefore
    exact (ih hrest).cons hc

theorem exists_of_mem_entities {e : List Char} (h : e ∈ entities) :
    ∃ name, e = '&' :: name ∧ ∀ c ∈ name, c ∉ entityMarks := by
  simp only [entities, List.mem_cons, List.not_mem_nil, or_false] at h
  rcases h with rfl | rfl | rfl | rfl | rfl
  · exact ⟨['a', 'm', 'p', ';'], rfl, by simp [entityMarks]⟩
  · exact ⟨['l', 't', ';'], rfl, by simp [entityMarks]⟩
  · exact ⟨['g', 't', ';'], rfl, by simp [entityMarks]⟩
  · exact ⟨['q', 'u', 'o', 't', ';'], rfl, by simp [entityMarks]⟩
  · exact ⟨['#', 'x', '2', '7', ';'], rfl, by simp [entityMarks]⟩

theorem IsHtmlSafe.entity_append {e : List Char} (he : e ∈ entities) (h : IsHtmlSafe cs) :
    IsHtmlSafe (e ++ cs) := by
  obtain ⟨name, rfl, hname⟩ := exists_of_mem_entities he
  have hrest := h.append hname
  refine ⟨List.forall_mem_cons.mpr ⟨by decide, hrest.plain⟩, ?_⟩
  intro behind hbehind
  rcases List.suffix_cons_iff.mp hbehind with heq | hlater
  · exact ⟨_, he, heq ▸ List.prefix_append _ cs⟩
  · exact hrest.entity behind hlater

theorem entityOf_mem_entities (h : c ∈ entityMarks) : entityOf c ∈ entities := by
  simp only [entityMarks, List.mem_cons, List.not_mem_nil, or_false] at h
  rcases h with rfl | rfl | rfl | rfl | rfl
  all_goals decide

theorem isHtmlSafe_escapeHtml (s : String) : IsHtmlSafe (escapeHtml s).toList := by
  rw [escapeHtml, String.toList_ofList]
  induction s.toList with
  | nil => exact isHtmlSafe_nil
  | cons c cs ih =>
    rw [List.flatMap_cons]
    by_cases hc : c ∈ entityMarks
    · exact ih.entity_append (entityOf_mem_entities hc)
    · rw [entityOf_of_not_mem hc]
      exact ih.cons hc

namespace Value

theorem mapTexts_id (v : Value) : v.mapTexts id = v := by
  induction v using Value.induction_on with
  | null | boolean | number | text => rfl
  | list items ih =>
    rw [mapTexts, mapItems_eq, List.map_congr_left ih, List.map_id']
  | object members ih =>
    rw [mapTexts, mapMembers_eq]
    refine congrArg object ((List.map_congr_left ?_).trans (List.map_id _))
    intro m hm
    rw [ih m hm]
    rfl

/-- A value is found again in its escaped form, text by text. -/
theorem unescaped_escaped (v : Value) : v.escaped.mapTexts unescapeHtml = v := by
  have hback : unescapeHtml ∘ escapeHtml = id := funext unescapeHtml_escapeHtml
  rw [escaped_eq_mapTexts, mapTexts_mapTexts, hback, mapTexts_id]

/-- Escaping makes every text safe to stand inside HTML, at any depth, and leaves all else as it is:
keys, lists, numbers and truth values. With the entities replaced again the value is the one that it
was, so that no two values have the same escaped form. -/
theorem escaping_safe_and_lossless (v w : Value) :
    (∀ s ∈ v.escaped.texts, IsHtmlSafe s.toList) ∧ v.escaped.outline = v.outline ∧
      v.escaped.mapTexts unescapeHtml = v ∧ (v.escaped = w.escaped ↔ v = w) := by
  refine ⟨?_, v.outline_escaped, v.unescaped_escaped, ?_, ?_⟩
  · rw [texts_escaped]
    exact List.forall_mem_map.mpr fun s _ => isHtmlSafe_escapeHtml s
  · intro heq
    rw [← v.unescaped_escaped, heq, w.unescaped_escaped]
  · rintro rfl
    rfl

end Value

end WebService.Json
