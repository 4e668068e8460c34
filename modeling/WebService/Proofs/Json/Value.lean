import WebService.Json.Document
import WebService.Number.Reading
import WebService.Proofs.Chain
import WebService.Proofs.Lookup

/-!
Values by induction, and properties of all values in a value. A value is data that can always be
written; if its numbers are whole, the data stands for the value itself.
-/
namespace WebService.Json

/-- Induction on a value, by all items of a list and all members of an object. -/
@[elab_as_elim]
theorem Value.induction_on {P : Value → Prop} (v : Value) (null : P .null)
    (boolean : ∀ b, P (.boolean b)) (number : ∀ n, P (.number n)) (text : ∀ s, P (.text s))
    (list : ∀ items, (∀ v ∈ items, P v) → P (.list items))
    (object : ∀ members, (∀ m ∈ members, P m.2) → P (.object members)) : P v :=
  @Value.rec P (fun items => ∀ v ∈ items, P v) (fun members => ∀ m ∈ members, P m.2)
    (fun m => P m.2) null boolean number text list object (List.forall_mem_nil _)
    (fun _ _ hitem hitems => List.forall_mem_cons.mpr ⟨hitem, hitems⟩) (List.forall_mem_nil _)
    (fun _ _ hfirst hrest => List.forall_mem_cons.mpr ⟨hfirst, hrest⟩) (fun _ _ hvalue => hvalue) v

/-! Equality -/

mutual

/-- Values are compared item by item and member by member. -/
def Value.decEq : (v w : Value) → Decidable (v = w)
  | .null, w => match w with
    | .null => isTrue rfl
    | .boolean _ | .number _ | .text _ | .list _ | .object _ => isFalse nofun
  | .boolean a, w => match w with
    | .boolean b => decidable_of_iff (a = b) (by simp)
    | .null | .number _ | .text _ | .list _ | .object _ => isFalse nofun
  | .number a, w => match w with
    | .number b => decidable_of_iff (a = b) (by simp)
    | .null | .boolean _ | .text _ | .list _ | .object _ => isFalse nofun
  | .text a, w => match w with
    | .text b => decidable_of_iff (a = b) (by simp)
    | .null | .boolean _ | .number _ | .list _ | .object _ => isFalse nofun
  | .list vs, w => match w with
    | .list ws =>
      match itemsDecEq vs ws with
      | isTrue h => isTrue (congrArg Value.list h)
      | isFalse h => isFalse fun heq => h (Value.list.inj heq)
    | .null | .boolean _ | .number _ | .text _ | .object _ => isFalse nofun
  | .object vs, w => match w with
    | .object ws =>
      match membersDecEq vs ws with
      | isTrue h => isTrue (congrArg Value.object h)
      | isFalse h => isFalse fun heq => h (Value.object.inj heq)
    | .null | .boolean _ | .number _ | .text _ | .list _ => isFalse nofun

def itemsDecEq : (vs ws : List Value) → Decidable (vs = ws)
  | [], [] => isTrue rfl
  | [], _ :: _ => isFalse nofun
  | _ :: _, [] => isFalse nofun
  | v :: vs, w :: ws =>
    match v.decEq w, itemsDecEq vs ws with
    | isTrue h, isTrue hrest => isTrue (congr (congrArg List.cons h) hrest)
    | isFalse h, _ => isFalse fun heq => h (List.cons.inj heq).1
    | _, isFalse hrest => isFalse fun heq => hrest (List.cons.inj heq).2

def membersDecEq : (vs ws : List (String × Value)) → Decidable (vs = ws)
  | [], [] => isTrue rfl
  | [], _ :: _ => isFalse nofun
  | _ :: _, [] => isFalse nofun
  | (a, v) :: vs, (b, w) :: ws =>
    match decEq a b, v.decEq w, membersDecEq vs ws with
    | isTrue hkey, isTrue h, isTrue hrest => isTrue (by simp [hkey, h, hrest])
    | isFalse hkey, _, _ => isFalse (by simp [hkey])
    | _, isFalse h, _ => isFalse (by simp [h])
    | _, _, isFalse hrest => isFalse (by simp [hrest])

end

instance : DecidableEq Value := Value.decEq

/-! Members -/

theorem Value.member?_object (key : String) (members : List (String × Value)) :
    (Value.object members).member? key = members.lookup key := by
  induction members with
  | nil => rfl
  | cons first rest ih =>
    obtain ⟨k, v⟩ := first
    rw [Value.member?] at ih ⊢
    by_cases hkey : key = k
    · subst hkey
      simp
    · simp [beq_false_of_ne (Ne.symm hkey), lookup_cons_of_ne hkey, ih]

/-! Properties of all values in a value -/

mutual

/-- Whether `p` holds of a value and of all values in it. -/
def Value.all (p : Value → Bool) : Value → Bool
  | .list items => p (.list items) && allItems p items
  | .object members => p (.object members) && allMembers p members
  | other => p other

def allItems (p : Value → Bool) : List Value → Bool
  | [] => true
  | item :: items => item.all p && allItems p items

def allMembers (p : Value → Bool) : List (String × Value) → Bool
  | [] => true
  | (_, value) :: rest => value.all p && allMembers p rest

end

variable {p q : Value → Bool} {items : List Value} {members : List (String × Value)} {v : Value}

theorem allItems_iff : allItems p items = true ↔ ∀ v ∈ items, v.all p = true := by
  induction items with
  | nil => simp [allItems]
  | cons item items ih => simp [allItems, ih]

theorem allMembers_iff : allMembers p members = true ↔ ∀ m ∈ members, m.2.all p = true := by
  induction members with
  | nil => simp [allMembers]
  | cons first rest ih => simp [allMembers, ih]

theorem Value.all_list :
    (Value.list items).all p = true ↔ p (.list items) = true ∧ ∀ v ∈ items, v.all p = true := by
  rw [Value.all, Bool.and_eq_true, allItems_iff]

theorem Value.all_object : (Value.object members).all p = true ↔
    p (.object members) = true ∧ ∀ m ∈ members, m.2.all p = true := by
  rw [Value.all, Bool.and_eq_true, allMembers_iff]

/-- Whether a number is an integer of 64 bits, with or without a sign. -/
def Number.isWord : Number → Bool
  | .whole i => Number.minInt64 ≤ i && i ≤ Number.maxUInt64
  | .real _ => false

theorem Number.isWord_whole {i : Int} : (Number.whole i).isWord = true ↔
    -9223372036854775808 ≤ i ∧ i ≤ 18446744073709551615 := by
  rw [Number.isWord, Bool.and_eq_true, decide_eq_true_iff, decide_eq_true_iff]
  exact Iff.rfl

/-- Whether all numbers in a value are integers of 64 bits. -/
def Value.isWhole (v : Value) : Bool :=
  v.all fun
    | .number n => n.isWord
    | _ => true

/-- Whether all integers in a value have 64 bits and a sign. -/
def Value.isSigned (v : Value) : Bool :=
  v.all fun
    | .number (.whole i) => Number.minInt64 ≤ i && i ≤ Number.maxInt64
    | _ => true

/-- Whether there is no null in a value. -/
def Value.isFull (v : Value) : Bool :=
  v.all fun
    | .null => false
    | _ => true

/-! Nesting -/

mutual

/-- How deep lists and objects nest in a value. -/
def Value.depth : Value → Nat
  | .list items => itemsDepth items + 1
  | .object members => membersDepth members + 1
  | _ => 0

def itemsDepth : List Value → Nat
  | [] => 0
  | item :: items => max item.depth (itemsDepth items)

def membersDepth : List (String × Value) → Nat
  | [] => 0
  | (_, value) :: rest => max value.depth (membersDepth rest)

end

variable {m : String × Value}

theorem itemsDepth_le_iff {n : Nat} : itemsDepth items ≤ n ↔ ∀ v ∈ items, v.depth ≤ n := by
  induction items with
  | nil => simp [itemsDepth]
  | cons item items ih => rw [itemsDepth, Nat.max_le, ih, List.forall_mem_cons]

theorem membersDepth_le_iff {n : Nat} :
    membersDepth members ≤ n ↔ ∀ m ∈ members, m.2.depth ≤ n := by
  induction members with
  | nil => simp [membersDepth]
  | cons first rest ih => rw [membersDepth, Nat.max_le, ih, List.forall_mem_cons]

theorem depth_le_itemsDepth (h : v ∈ items) : v.depth ≤ itemsDepth items :=
  itemsDepth_le_iff.mp (Nat.le_refl _) v h

theorem depth_le_membersDepth (h : m ∈ members) : m.2.depth ≤ membersDepth members :=
  membersDepth_le_iff.mp (Nat.le_refl _) m h

/-! Values as data -/

theorem itemDocuments_eq (items : List Value) : itemDocuments items = items.map (·.toDocument) := by
  induction items with
  | nil => rfl
  | cons item items ih => rw [itemDocuments, ih, List.map_cons]

theorem exists_toItems (h : ∀ v ∈ items, ∃ w, v.toDocument.toValue = .ok w ∧ (v.isWhole → w = v)) :
    ∃ written, Document.toItems (itemDocuments items) = .ok written ∧
      ((∀ v ∈ items, v.isWhole) → written = items) := by
  induction items with
  | nil => exact ⟨[], rfl, fun _ => rfl⟩
  | cons item items ih =>
    obtain ⟨w, hw, hsame⟩ := h item List.mem_cons_self
    obtain ⟨written, hwritten, hall⟩ := ih fun v hv => h v (List.mem_cons_of_mem _ hv)
    refine ⟨w :: written, ?_, ?_⟩
    · rw [itemDocuments, Document.toItems, hw, hwritten]
      rfl
    · intro hwhole
      rw [hsame (hwhole item List.mem_cons_self),
        hall fun v hv => hwhole v (List.mem_cons_of_mem _ hv)]

theorem exists_toMembers
    (h : ∀ m ∈ members, ∃ w, m.2.toDocument.toValue = .ok w ∧ (m.2.isWhole → w = m.2)) :
    ∃ written, Document.toMembers (memberDocuments members) = .ok written ∧
      ((∀ m ∈ members, m.2.isWhole) → written = members) := by
  induction members with
  | nil => exact ⟨[], rfl, fun _ => rfl⟩
  | cons first rest ih =>
    obtain ⟨key, value⟩ := first
    obtain ⟨w, hw, hsame⟩ := h (key, value) List.mem_cons_self
    obtain ⟨written, hwritten, hall⟩ := ih fun m hm => h m (List.mem_cons_of_mem _ hm)
    refine ⟨(key, w) :: written, ?_, ?_⟩
    · rw [memberDocuments, Document.toMembers, hw, hwritten]
      rfl
    · intro hwhole
      rw [hsame (hwhole (key, value) List.mem_cons_self),
        hall fun m hm => hwhole m (List.mem_cons_of_mem _ hm)]

/-- A value can be written as data: numbers that are no real numbers become null, and nothing else
changes. -/
theorem Value.exists_toValue (v : Value) :
    ∃ w, v.toDocument.toValue = .ok w ∧ (v.isWhole → w = v) := by
  induction v using Value.induction_on with
  | null => exact ⟨.null, rfl, fun _ => rfl⟩
  | boolean b => exact ⟨.boolean b, rfl, fun _ => rfl⟩
  | text s => exact ⟨.text s, rfl, fun _ => rfl⟩
  | number n =>
    cases n with
    | whole i => exact ⟨.number (.whole i), rfl, fun _ => rfl⟩
    | real x =>
      refine ⟨_, rfl, ?_⟩
      intro hwhole
      cases hwhole
  | list items ih =>
    obtain ⟨written, hwritten, hall⟩ := exists_toItems ih
    refine ⟨.list written, ?_, ?_⟩
    · rw [Value.toDocument, Document.toValue, hwritten]
      rfl
    · intro hwhole
      rw [hall (Value.all_list.mp hwhole).2]
  | object members ih =>
    obtain ⟨written, hwritten, hall⟩ := exists_toMembers ih
    refine ⟨.object written, ?_, ?_⟩
    · rw [Value.toDocument, Document.toValue, hwritten]
      rfl
    · intro hwhole
      rw [hall (Value.all_object.mp hwhole).2]

theorem Value.toValue_toDocument (h : v.isWhole = true) : v.toDocument.toValue = .ok v := by
  obtain ⟨w, hw, hsame⟩ := v.exists_toValue
  rw [hw, hsame h]

end WebService.Json
