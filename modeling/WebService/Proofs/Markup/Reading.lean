import WebService.Markup.Document

/-!
Reading markup event by event: each event takes text away, so a check that follows the events comes
to the end of the text.
-/
namespace WebService.Markup

/-- The events that stand in a text up to the place that another source reads on from. -/
inductive Source.Reads : Source → List Event → Source → Prop where
  | nil (s : Source) : Reads s [] s
  | cons {s t u : Source} {event : Event} {events : List Event}
      (h : s.next = .ok (some (event, t))) (ht : Reads t events u) : Reads s (event :: events) u

variable {closes : List Char → Bool} {quote : Option Char} {depth size fuel : Nat}
  {before content chunk cs rest : List Char} {event : Event}
  {events later : List Event} {o o' : Outline} {s t u : Source}

/-! What scanning leaves -/

theorem length_of_scanTo (h : scanTo closes before cs = some (content, rest)) :
    rest.length < cs.length := by
  induction cs generalizing before with
  | nil => simp [scanTo] at h
  | cons c cs ih =>
    rw [scanTo] at h
    split at h
    · cases h
      exact Nat.lt_succ_self _
    · exact Nat.lt_succ_of_lt (ih h)

theorem length_of_scanTag (h : scanTag quote before cs = some (content, rest)) :
    rest.length < cs.length := by
  induction cs generalizing quote before with
  | nil => cases quote <;> simp [scanTag] at h
  | cons c cs ih =>
    cases quote with
    | some q => exact Nat.lt_succ_of_lt (ih h)
    | none =>
      rw [scanTag] at h
      split at h
      · cases h
        exact Nat.lt_succ_self _
      · exact Nat.lt_succ_of_lt (ih h)

theorem length_of_scanBalanced (h : scanBalanced depth before cs = some (content, rest)) :
    rest.length < cs.length := by
  induction cs generalizing depth before with
  | nil => simp [scanBalanced] at h
  | cons c cs ih =>
    unfold scanBalanced at h
    split at h
    · cases depth with
      | zero =>
        cases h
        exact Nat.lt_succ_self _
      | succ depth => exact Nat.lt_succ_of_lt (ih h)
    · exact Nat.lt_succ_of_lt (ih h)

namespace Source

/-! What an event leaves -/

theorem rest_of_plain {e : Event} (h : s.plain e rest = .ok (event, t)) : t.rest = rest := by
  cases h
  rfl

theorem rest_of_endTag (h : s.endTag content rest = .ok (event, t)) : t.rest = rest := by
  simp only [endTag] at h
  split at h
  · cases h
  · split at h
    · cases h
      rfl
    · cases h

theorem rest_of_startTag (h : s.startTag content rest = .ok (event, t)) : t.rest = rest := by
  unfold startTag at h
  split at h
  · exact rest_of_plain h
  · cases h
    rfl

theorem length_of_bang (h : s.bang chunk = .ok (event, t)) : t.rest.length < chunk.length := by
  unfold bang at h
  split at h
  · split at h
    · cases h
    · rename_i content rest hscan
      split at h
      · rw [rest_of_plain h]
        exact length_of_scanTo hscan
      · cases h
  · split at h
    · cases h
    · rename_i content rest hscan
      split at h
      · rw [rest_of_plain h]
        exact length_of_scanTo hscan
      · cases h
  · split at h
    · split at h
      · cases h
      · rename_i content rest hscan
        split at h
        · split at h
          · cases h
          · rw [rest_of_plain h]
            exact length_of_scanBalanced hscan
        · cases h
    · cases h
  · cases h

theorem length_of_question (h : s.question chunk = .ok (event, t)) :
    t.rest.length < chunk.length := by
  unfold question at h
  split at h
  · cases h
  · rename_i content rest hscan
    split at h
    · cases h
    · dsimp only at h
      split at h
      · rw [rest_of_plain h]
        exact length_of_scanTo hscan
      · rw [rest_of_plain h]
        exact length_of_scanTo hscan

theorem length_of_markup (h : s.markup chunk = .ok (event, t)) : t.rest.length < chunk.length := by
  unfold markup at h
  split at h
  · exact length_of_bang h
  · exact length_of_question h
  · split at h
    · cases h
    · rename_i content rest hscan
      split at h
      · rw [rest_of_endTag h]
        exact length_of_scanTag hscan
      · rw [rest_of_startTag h]
        exact length_of_scanTag hscan

/-- Each event takes text away. -/
theorem length_of_next (h : s.next = .ok (some (event, t))) : t.rest.length < s.rest.length := by
  unfold next at h
  split at h
  · cases h
  · rename_i chunk hrest
    cases hm : s.markup chunk with
    | error fault => simp [hm, Except.map] at h
    | ok read =>
      have hread : read = (event, t) := by simpa [hm, Except.map] using h
      rw [hrest]
      exact Nat.lt_succ_of_lt (length_of_markup (hm.trans (congrArg _ hread)))
  · rename_i hnil hmark
    cases h
    cases hrest : s.rest with
    | nil => exact absurd hrest hnil
    | cons c cs =>
      have hc : c ≠ '<' := fun hc => hmark cs (hc ▸ hrest)
      have hle := (List.dropWhile_sublist (l := cs) (fun c => decide (c ≠ '<'))).length_le
      simp only [List.dropWhile_cons, hc, ne_eq, not_false_eq_true, decide_true, if_true,
        List.length_cons]
      exact Nat.lt_succ_of_le hle

/-! Reading on and on -/

theorem Reads.single (h : s.next = .ok (some (event, t))) : s.Reads [event] t := .cons h (.nil t)

theorem Reads.append (hs : s.Reads events t) (ht : t.Reads later u) :
    s.Reads (events ++ later) u := by
  induction hs with
  | nil s => exact ht
  | cons h _ ih => exact .cons h (ih ht)

end Source

/-- A check that comes to the end of the text says what the outline after all events says. -/
theorem follow_of_reads (h : s.Reads events t) (ht : t.rest = []) (hfuel : s.rest.length < fuel) :
    follow size fuel o s = (events.foldlM Outline.step o).bind Outline.finish := by
  induction h generalizing o fuel with
  | nil s =>
    cases fuel with
    | zero => rfl
    | succ fuel =>
      have hend : s.next = .ok none := by simp [Source.next, ht]
      simp only [follow, hend]
      rfl
  | @cons s t u event events h _ ih =>
    obtain ⟨left, rfl⟩ : ∃ left, fuel = left + 1 := ⟨fuel - 1, by omega⟩
    have hlength := Source.length_of_next h
    have hleft : t.rest.length < left := by omega
    simp only [follow, h, List.foldlM_cons]
    cases o.step event with
    | error e => rfl
    | ok o' => exact ih ht hleft

theorem checkDocument_of_reads {text : String} (h : (Source.ofText text.toList).Reads events t)
    (ht : t.rest = []) :
    checkDocument text = (events.foldlM Outline.step ⟨0, 0⟩).bind Outline.finish :=
  follow_of_reads h ht (Nat.lt_succ_self _)

end WebService.Markup
