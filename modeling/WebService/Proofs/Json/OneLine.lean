import WebService.Proofs.Json.Text
import WebService.Proofs.Json.Value
import WebService.Proofs.Number.Integer

/-!
Values on one line: their text has no control characters, whatever stands in texts and keys.
-/
namespace WebService.Json

variable {c : Char} {cs ds : List Char} {v : Value}

/-- Whether a text has no control characters, and so no line breaks. -/
def IsOneLine (cs : List Char) : Prop := ∀ c ∈ cs, 0x20 ≤ c.toNat

instance (cs : List Char) : Decidable (IsOneLine cs) := List.decidableBAll _ cs

theorem isOneLine_cons : IsOneLine (c :: cs) ↔ 0x20 ≤ c.toNat ∧ IsOneLine cs := List.forall_mem_cons

theorem isOneLine_append : IsOneLine (cs ++ ds) ↔ IsOneLine cs ∧ IsOneLine ds :=
  List.forall_mem_append

/-! Texts and numbers -/

theorem isOneLine_escapeChar (c : Char) : IsOneLine (escapeChar c) := by
  have hascii : ∀ n < 0x80, IsOneLine (escapeChar (Char.ofNat n)) := by decide
  by_cases hc : c.toNat < 0x80
  · have hescape := hascii c.toNat hc
    rwa [Char.ofNat_toNat] at hescape
  · have hne : ∀ mark : Char, mark.toNat < 0x80 → c ≠ mark := by
      rintro mark hmark rfl
      exact hc hmark
    rw [escapeChar_of_bare (hne _ (by decide)) (hne _ (by decide)) (by omega)]
    exact isOneLine_cons.mpr ⟨by omega, List.forall_mem_nil _⟩

theorem isOneLine_writeText (s : String) : IsOneLine (writeText s) := by
  refine isOneLine_cons.mpr ⟨by decide, isOneLine_append.mpr ⟨?_, by decide⟩⟩
  intro d hd
  obtain ⟨c, -, hd⟩ := List.mem_flatMap.mp hd
  exact isOneLine_escapeChar c d hd

theorem isOneLine_intText (i : Int) : IsOneLine (Number.intText i) := by
  have hdigits : ∀ n, IsOneLine (Number.digitsOf n) := fun n c hc =>
    Nat.le_trans (by decide) (Number.toNat_of_isDigit (Number.isDigit_of_mem_digitsOf hc)).1
  unfold Number.intText
  split
  · exact isOneLine_cons.mpr ⟨by decide, hdigits _⟩
  · exact hdigits _

/-! Values -/

/-- Without an indentation nothing stands where lines would break. -/
theorem isOneLine_lineBreak (level : Nat) : IsOneLine (lineBreak none level) :=
  List.forall_mem_nil _

theorem isOneLine_writeItems {items : List Value} {level : Nat}
    (h : ∀ v ∈ items, IsOneLine (write none level v)) :
    IsOneLine (writeItems none level items) := by
  induction items with
  | nil => exact List.forall_mem_nil _
  | cons item items ih =>
    obtain ⟨hitem, hitems⟩ := List.forall_mem_cons.mp h
    rw [writeItems]
    simp only [isOneLine_cons, isOneLine_append]
    exact ⟨by decide, ⟨isOneLine_lineBreak level, hitem⟩, ih hitems⟩

theorem isOneLine_writeMembers {members : List (String × Value)} {level : Nat}
    (h : ∀ m ∈ members, IsOneLine (write none level m.2)) :
    IsOneLine (writeMembers none level members) := by
  induction members with
  | nil => exact List.forall_mem_nil _
  | cons first rest ih =>
    obtain ⟨key, value⟩ := first
    obtain ⟨hfirst, hrest⟩ := List.forall_mem_cons.mp h
    rw [writeMembers]
    simp only [isOneLine_cons, isOneLine_append]
    exact ⟨by decide, ⟨⟨⟨isOneLine_lineBreak level, isOneLine_writeText key⟩, by decide⟩, hfirst⟩,
      ih hrest⟩

theorem isOneLine_write (v : Value) (h : v.isWhole = true) (level : Nat) :
    IsOneLine (write none level v) := by
  induction v using Value.induction_on generalizing level with
  | null =>
    rw [write]
    decide
  | boolean b => cases b <;> (rw [write]; decide)
  | number n =>
    cases n with
    | whole i => exact isOneLine_intText i
    | real x => cases h
  | text s => exact isOneLine_writeText s
  | list items ih =>
    cases items with
    | nil =>
      rw [write]
      decide
    | cons item items =>
      have hall := (Value.all_list.mp h).2
      obtain ⟨hitem, hitems⟩ := List.forall_mem_cons.mp fun v hv => ih v hv (hall v hv) (level + 1)
      rw [write]
      simp only [isOneLine_cons, isOneLine_append]
      exact ⟨by decide, ⟨⟨⟨isOneLine_lineBreak _, hitem⟩, isOneLine_writeItems hitems⟩,
        isOneLine_lineBreak level⟩, by decide⟩
  | object members ih =>
    cases members with
    | nil =>
      rw [write]
      decide
    | cons first rest =>
      obtain ⟨key, value⟩ := first
      have hall := (Value.all_object.mp h).2
      obtain ⟨hfirst, hrest⟩ := List.forall_mem_cons.mp fun m hm => ih m hm (hall m hm) (level + 1)
      rw [write]
      simp only [isOneLine_cons, isOneLine_append]
      exact ⟨by decide, ⟨⟨⟨⟨⟨isOneLine_lineBreak _, isOneLine_writeText key⟩, by decide⟩, hfirst⟩,
        isOneLine_writeMembers hrest⟩, isOneLine_lineBreak level⟩, by decide⟩

theorem isOneLine_compact (h : v.isWhole = true) : IsOneLine v.compact.toList := by
  rw [Value.compact, Value.render, String.toList_ofList]
  exact isOneLine_write v h 0

end WebService.Json
