import WebService.Proofs.Json.Text
import WebService.Proofs.Json.Value
import WebService.Proofs.Number.Integer

/-!
Written values are read as the values they were written from, in every layout and whatever stands
behind them, as long as they nest no deeper than the reader goes.
-/
namespace WebService.Json

open WebService.Number (digitsOf digitValue ne_of_isDigit)

variable {c : Char} {cs ds rest : List Char} {layout : Layout} {level fuel depth n : Nat}

/-! Numbers -/

/-- Whether a number that stands before `rest` ends there. -/
def EndsNumber (rest : List Char) : Prop :=
  ∀ c ∈ rest.head?, c.isDigit = false ∧ c ≠ '.' ∧ c ≠ 'e' ∧ c ≠ 'E'

theorem endsNumber_nil : EndsNumber [] := by
  intro c hc
  cases hc

theorem endsNumber_cons (h : c ∈ [',', '\n', ']', '\x7d']) : EndsNumber (c :: rest) := by
  intro d hd
  cases hd
  simp only [List.mem_cons, List.not_mem_nil, or_false] at h
  rcases h with rfl | rfl | rfl | rfl
  all_goals exact ⟨rfl, by decide, by decide, by decide⟩

theorem le_foldl_digits (ds : List Char) (n : Nat) :
    n ≤ ds.foldl (fun n c => 10 * n + digitValue c) n := by
  induction ds generalizing n with
  | nil => exact Nat.le_refl n
  | cons d ds ih =>
    have hnext := ih (10 * n + digitValue d)
    rw [List.foldl_cons]
    omega

theorem takeDigits_of_endsNumber (h : EndsNumber rest) (n : Nat) :
    takeDigits n rest = (n, rest) := by
  cases rest with
  | nil => rfl
  | cons c rest => simp [takeDigits, (h c rfl).1]

/-- Digits are taken in as long as their value is a word. -/
theorem takeDigits_append (hds : ∀ d ∈ ds, d.isDigit = true) (hrest : EndsNumber rest)
    (hword : ds.foldl (fun n c => 10 * n + digitValue c) n ≤ Number.maxUInt64) :
    takeDigits n (ds ++ rest) = (ds.foldl (fun n c => 10 * n + digitValue c) n, rest) := by
  induction ds generalizing n with
  | nil => exact takeDigits_of_endsNumber hrest n
  | cons d ds ih =>
    have hnext : 10 * n + digitValue d ≤ Number.maxUInt64 :=
      Nat.le_trans (le_foldl_digits ds _) hword
    have hd : d.isDigit = true := hds d List.mem_cons_self
    simp only [List.cons_append, takeDigits, hd, hnext, if_true]
    exact ih (fun d hmem => hds d (List.mem_cons_of_mem _ hmem)) hword

theorem readTail_of_endsNumber (hrest : EndsNumber rest) (negative : Bool) :
    readTail negative n rest =
      if !negative then .ok (.whole n, rest)
      else if n = 0 || 9223372036854775808 < n then .ok (.real (Number.double.ofInt n).neg, rest)
      else .ok (.whole (-(n : Int)), rest) := by
  cases rest with
  | nil => rfl
  | cons c rest =>
    obtain ⟨-, hpoint, hsmall, hlarge⟩ := hrest c rfl
    unfold readTail
    split
    · rename_i heq
      exact absurd (List.cons.inj heq).1 hpoint
    · rename_i heq
      exact absurd (List.cons.inj heq).1 hsmall
    · rename_i heq
      exact absurd (List.cons.inj heq).1 hlarge
    · rfl

theorem readNumber_digitsOf (hrest : EndsNumber rest) (hword : n ≤ Number.maxUInt64)
    (negative : Bool) : readNumber negative (digitsOf n ++ rest) = readTail negative n rest := by
  have hnext : (rest.head?.map Char.isDigit).getD false = false := by
    cases rest with
    | nil => rfl
    | cons c rest => exact (hrest c rfl).1
  rcases Nat.eq_zero_or_pos n with rfl | hpos
  · have hzero : digitsOf 0 = ['0'] := rfl
    rw [hzero, List.singleton_append, readNumber, if_pos rfl, hnext]
    rfl
  · obtain ⟨d, ds, hds, hd⟩ := Number.exists_digitsOf_eq_cons hpos
    have hdigits : ∀ c ∈ d :: ds, c.isDigit = true := by
      intro c hc
      exact Number.isDigit_of_mem_digitsOf (hds ▸ hc)
    have hvalue : ds.foldl (fun n c => 10 * n + digitValue c) (digitValue d) = n := by
      have hall := Number.natOfDigits_digitsOf n
      rw [hds, Number.natOfDigits, List.foldl_cons, Nat.mul_zero, Nat.zero_add] at hall
      exact hall
    have htake := takeDigits_append (fun c hc => hdigits c (List.mem_cons_of_mem _ hc)) hrest
      (hvalue.symm ▸ hword)
    rw [hvalue] at htake
    simp [hds, readNumber, hd, hdigits d List.mem_cons_self, htake, hnext]

/-! Values -/

theorem isSpace_of_mem_lineBreak (h : c ∈ lineBreak layout level) : isSpace c = true := by
  cases layout with
  | none => cases h
  | some width =>
    rcases List.mem_cons.mp h with rfl | h
    · rfl
    · rw [(List.mem_replicate.mp h).2]
      rfl

theorem skipSpace_lineBreak (layout : Layout) (level : Nat) (cs : List Char) :
    skipSpace (lineBreak layout level ++ cs) = skipSpace cs :=
  List.dropWhile_append_of_pos fun _ h => isSpace_of_mem_lineBreak h

theorem skipSpace_cons (h : isSpace c = false) : skipSpace (c :: cs) = c :: cs :=
  List.dropWhile_cons_of_neg (by simp [h])

theorem endsNumber_lineBreak (h : c = ']' ∨ c = '\x7d') :
    EndsNumber (lineBreak layout level ++ c :: rest) := by
  cases layout with
  | none => exact endsNumber_cons (by rcases h with rfl | rfl <;> simp)
  | some width => exact endsNumber_cons (by simp)

/-- What a value begins with: no white space, and no mark that ends a list. -/
theorem exists_cons_of_isWhole {v : Value} (h : v.isWhole = true) (layout : Layout) (level : Nat) :
    ∃ c cs, write layout level v = c :: cs ∧ isSpace c = false ∧ c ≠ ']' := by
  match v with
  | .null => exact ⟨'n', _, rfl, rfl, by decide⟩
  | .boolean true => exact ⟨'t', _, rfl, rfl, by decide⟩
  | .boolean false => exact ⟨'f', _, rfl, rfl, by decide⟩
  | .text s => exact ⟨'"', _, rfl, rfl, by decide⟩
  | .list [] => exact ⟨'[', _, rfl, rfl, by decide⟩
  | .list (_ :: _) => exact ⟨'[', _, by rw [write], rfl, by decide⟩
  | .object [] => exact ⟨'\x7b', _, rfl, rfl, by decide⟩
  | .object (_ :: _) => exact ⟨'\x7b', _, by rw [write], rfl, by decide⟩
  | .number (.real x) => cases h
  | .number (.whole i) =>
    rw [write, writeNumber, Number.intText]
    split
    · exact ⟨'-', _, rfl, rfl, by decide⟩
    · obtain ⟨c, cs, hds, hc⟩ := Number.exists_digit_digitsOf i.natAbs
      exact ⟨c, cs, hds, by simp [isSpace, ne_of_isDigit hc], ne_of_isDigit hc rfl⟩

theorem readValue_intText {i : Int} (hi : (Number.whole i).isWord = true) (hrest : EndsNumber rest)
    (fuel depth : Nat) :
    readValue (fuel + 1) depth (Number.intText i ++ rest) = .ok (.number (.whole i), rest) := by
  have hbounds := Number.isWord_whole.mp hi
  have hword : i.natAbs ≤ Number.maxUInt64 := by
    have hmax : i.natAbs ≤ 18446744073709551615 := by omega
    exact hmax
  have hread := readNumber_digitsOf hrest hword
  rw [Number.intText]
  split
  · rename_i hnegative
    have htail : readTail true i.natAbs rest = .ok (.whole i, rest) := by
      have hvalue : -(i.natAbs : Int) = i := by omega
      have hzero : i.natAbs ≠ 0 := by omega
      have hlow : i.natAbs ≤ 9223372036854775808 := by omega
      rw [readTail_of_endsNumber hrest, hvalue]
      simp [hzero, Nat.not_lt.mpr hlow]
    simp [readValue, skipSpace_cons (rfl : isSpace '-' = false), hread, htail, bind, Except.bind,
      pure, Except.pure]
  · rename_i hpositive
    have htail : readTail false i.natAbs rest = .ok (.whole i, rest) := by
      have hvalue : (i.natAbs : Int) = i := by omega
      simp [readTail_of_endsNumber hrest, hvalue]
    obtain ⟨c, cs, hds, hc⟩ := Number.exists_digit_digitsOf i.natAbs
    have hspace : isSpace c = false := by simp [isSpace, ne_of_isDigit hc]
    rw [hds, List.cons_append] at hread
    simp [hds, readValue, skipSpace_cons hspace, ne_of_isDigit hc, hc, hread, htail, bind,
      Except.bind, pure, Except.pure]

/-- Whether a value is read back from what is written for it, where lists and objects may nest
deeper than in the value. -/
def Value.ReadsBack (layout : Layout) (v : Value) : Prop :=
  ∀ (level depth fuel : Nat) (rest : List Char), v.depth < depth →
    3 * (write layout level v).length ≤ fuel → EndsNumber rest →
    readValue fuel depth (write layout level v ++ rest) = .ok (v, rest)

variable {items : List Value} {members : List (String × Value)} {v : Value} {s : String}

/-! Items -/

theorem readItems_end (hfuel : 0 < fuel) : readItems fuel depth false
    (lineBreak layout level ++ ']' :: rest) = .ok ([], rest) := by
  obtain ⟨left, rfl⟩ := Nat.exists_eq_add_one.mpr hfuel
  rw [readItems, skipSpace_lineBreak, skipSpace_cons rfl]
  rfl

theorem readItems_first (hspace : isSpace c = false) (hend : c ≠ ']') :
    readItems (fuel + 1) depth true (lineBreak layout level ++ c :: cs) = do
      let (item, rest) ← readValue fuel depth (c :: cs)
      let (items, rest) ← readItems fuel depth false rest
      return (item :: items, rest) := by
  rw [readItems, skipSpace_lineBreak, skipSpace_cons hspace]
  simp

theorem readItems_comma (hspace : isSpace c = false) (hend : c ≠ ']') :
    readItems (fuel + 1) depth false (',' :: (lineBreak layout level ++ c :: cs)) = do
      let (item, rest) ← readValue fuel depth (c :: cs)
      let (items, rest) ← readItems fuel depth false rest
      return (item :: items, rest) := by
  rw [readItems, skipSpace_cons rfl]
  simp [skipSpace_lineBreak, skipSpace_cons hspace, hend]

/-- A text behind which another item or the end of the list follows. -/
theorem endsNumber_writeItems (layout : Layout) (level inner : Nat) (items : List Value)
    (rest : List Char) :
    EndsNumber (writeItems layout inner items ++ (lineBreak layout level ++ ']' :: rest)) := by
  cases items with
  | nil => exact endsNumber_lineBreak (Or.inl rfl)
  | cons item items => exact endsNumber_cons List.mem_cons_self

theorem readItems_written (level inner : Nat) (rest : List Char)
    (hread : ∀ v ∈ items, v.ReadsBack layout) (hwhole : ∀ v ∈ items, v.isWhole = true)
    (hdepth : ∀ v ∈ items, v.depth < depth) (fuel : Nat)
    (hfuel : 3 * (writeItems layout inner items).length < fuel) :
    readItems fuel depth false
      (writeItems layout inner items ++ (lineBreak layout level ++ ']' :: rest)) =
      .ok (items, rest) := by
  induction items generalizing fuel with
  | nil => exact readItems_end hfuel
  | cons item items ih =>
    obtain ⟨left, rfl⟩ := Nat.exists_eq_add_one.mpr (Nat.zero_lt_of_lt hfuel)
    obtain ⟨c, cs, htext, hspace, hend⟩ :=
      exists_cons_of_isWhole (hwhole item List.mem_cons_self) layout inner
    simp only [writeItems, List.length_cons, List.length_append] at hfuel
    have hends := endsNumber_writeItems layout level inner items rest
    have hitem := hread item List.mem_cons_self inner depth left _
      (hdepth item List.mem_cons_self) (by omega) hends
    have hitems := ih (fun v hv => hread v (List.mem_cons_of_mem _ hv))
      (fun v hv => hwhole v (List.mem_cons_of_mem _ hv))
      (fun v hv => hdepth v (List.mem_cons_of_mem _ hv)) left (by omega)
    rw [htext, List.cons_append] at hitem
    simp only [writeItems, htext, List.cons_append, List.append_assoc]
    rw [readItems_comma hspace hend, hitem]
    simp [hitems, bind, Except.bind, pure, Except.pure]

theorem readsBack_list (hread : ∀ v ∈ items, v.ReadsBack layout)
    (hwhole : ∀ v ∈ items, v.isWhole = true) : (Value.list items).ReadsBack layout := by
  intro level depth fuel rest hdepth hfuel hrest
  rw [Value.depth] at hdepth
  have hinner : ∀ v ∈ items, v.depth < depth - 1 := by
    intro v hv
    have hv := depth_le_itemsDepth hv
    omega
  have hopen : ¬ depth ≤ 1 := by omega
  cases items with
  | nil =>
    obtain ⟨left, rfl⟩ : ∃ left, fuel = left + 2 := ⟨fuel - 2, by simp [write] at hfuel; omega⟩
    simp [write, readValue, skipSpace_cons (rfl : isSpace '[' = false), hopen, readItems,
      skipSpace_cons (rfl : isSpace ']' = false), bind, Except.bind, pure, Except.pure]
  | cons item items =>
    simp only [write, List.length_cons, List.length_append] at hfuel
    obtain ⟨left, rfl⟩ : ∃ left, fuel = left + 2 := ⟨fuel - 2, by omega⟩
    obtain ⟨c, cs, htext, hspace, hend⟩ :=
      exists_cons_of_isWhole (hwhole item List.mem_cons_self) layout (level + 1)
    have hends := endsNumber_writeItems layout level (level + 1) items rest
    have hitem := hread item List.mem_cons_self (level + 1) (depth - 1) left _
      (hinner item List.mem_cons_self) (by omega) hends
    have hitems := readItems_written level (level + 1) rest
      (fun v hv => hread v (List.mem_cons_of_mem _ hv))
      (fun v hv => hwhole v (List.mem_cons_of_mem _ hv))
      (fun v hv => hinner v (List.mem_cons_of_mem _ hv)) left (by omega)
    rw [htext, List.cons_append] at hitem
    simp only [write, htext, List.cons_append, List.append_assoc, List.nil_append]
    rw [readValue, skipSpace_cons rfl]
    simp only [Char.reduceEq, if_false, if_true, hopen]
    rw [readItems_first hspace hend, hitem]
    simp [hitems, bind, Except.bind, pure, Except.pure]

/-! Members -/

theorem writeText_cons (s : String) :
    writeText s = '"' :: (s.toList.flatMap escapeChar ++ ['"']) := rfl

theorem exists_keyMark_eq (layout : Layout) : ∃ blank, keyMark layout = ':' :: blank ∧
    ∀ cs, skipSpace (blank ++ cs) = skipSpace cs := by
  cases layout with
  | none => exact ⟨[], rfl, fun _ => rfl⟩
  | some width => exact ⟨[' '], rfl, fun _ => rfl⟩

theorem readValue_congr (h : skipSpace cs = skipSpace ds) (hfuel : 0 < fuel) (depth : Nat) :
    readValue fuel depth cs = readValue fuel depth ds := by
  obtain ⟨left, rfl⟩ := Nat.exists_eq_add_one.mpr hfuel
  rw [readValue, h, readValue]

/-- A member is read after the opening quote of its key. -/
theorem readMember_written (layout : Layout) (key : String) {text : List Char} (hfuel : 0 < fuel)
    (hread : readValue fuel depth (text ++ rest) = .ok (v, rest)) :
    readMember (fuel + 1) depth
      (key.toList.flatMap escapeChar ++ '"' :: (keyMark layout ++ (text ++ rest))) = do
        let (members, rest) ← readMembers fuel depth false rest
        return ((key, v) :: members, rest) := by
  obtain ⟨blank, hmark, hskip⟩ := exists_keyMark_eq layout
  have hvalue := readValue_congr (hskip (text ++ rest)) hfuel depth
  rw [hread] at hvalue
  simp [readMember, readText_written, hmark, skipSpace_cons (rfl : isSpace ':' = false), hvalue,
    bind, Except.bind]

theorem readMembers_end (hfuel : 0 < fuel) : readMembers fuel depth false
    (lineBreak layout level ++ '\x7d' :: rest) = .ok ([], rest) := by
  obtain ⟨left, rfl⟩ := Nat.exists_eq_add_one.mpr hfuel
  rw [readMembers, skipSpace_lineBreak, skipSpace_cons rfl]
  rfl

theorem readMembers_first : readMembers (fuel + 1) depth true
    (lineBreak layout level ++ '"' :: cs) = readMember fuel depth cs := by
  rw [readMembers, skipSpace_lineBreak, skipSpace_cons rfl]
  simp

theorem readMembers_comma : readMembers (fuel + 1) depth false
    (',' :: (lineBreak layout level ++ '"' :: cs)) = readMember fuel depth cs := by
  rw [readMembers, skipSpace_cons rfl]
  simp [skipSpace_lineBreak, skipSpace_cons (rfl : isSpace '"' = false)]

/-- A text behind which another member or the end of the object follows. -/
theorem endsNumber_writeMembers (layout : Layout) (level inner : Nat)
    (members : List (String × Value)) (rest : List Char) :
    EndsNumber
      (writeMembers layout inner members ++ (lineBreak layout level ++ '\x7d' :: rest)) := by
  cases members with
  | nil => exact endsNumber_lineBreak (Or.inr rfl)
  | cons first members => exact endsNumber_cons List.mem_cons_self

theorem readMembers_written (level inner : Nat) (rest : List Char)
    (hread : ∀ m ∈ members, m.2.ReadsBack layout) (hdepth : ∀ m ∈ members, m.2.depth < depth)
    (fuel : Nat) (hfuel : 3 * (writeMembers layout inner members).length < fuel) :
    readMembers fuel depth false
      (writeMembers layout inner members ++ (lineBreak layout level ++ '\x7d' :: rest)) =
      .ok (members, rest) := by
  induction members generalizing fuel with
  | nil => exact readMembers_end hfuel
  | cons first members ih =>
    obtain ⟨key, value⟩ := first
    simp only [writeMembers, writeText_cons, List.length_cons, List.length_append] at hfuel
    obtain ⟨left, rfl⟩ : ∃ left, fuel = left + 2 := ⟨fuel - 2, by omega⟩
    have hends := endsNumber_writeMembers layout level inner members rest
    have hvalue := hread (key, value) List.mem_cons_self inner depth left _
      (hdepth (key, value) List.mem_cons_self) (by simp only; omega) hends
    have hmembers := ih (fun m hm => hread m (List.mem_cons_of_mem _ hm))
      (fun m hm => hdepth m (List.mem_cons_of_mem _ hm)) left (by omega)
    have hmember := readMember_written layout key (by omega) hvalue
    simp only [writeMembers, writeText_cons, List.cons_append, List.append_assoc, List.nil_append]
    rw [readMembers_comma, hmember, hmembers]
    rfl

theorem readsBack_object (hread : ∀ m ∈ members, m.2.ReadsBack layout) :
    (Value.object members).ReadsBack layout := by
  intro level depth fuel rest hdepth hfuel hrest
  rw [Value.depth] at hdepth
  have hinner : ∀ m ∈ members, m.2.depth < depth - 1 := by
    intro m hm
    have hm := depth_le_membersDepth hm
    omega
  have hopen : ¬ depth ≤ 1 := by omega
  cases members with
  | nil =>
    obtain ⟨left, rfl⟩ : ∃ left, fuel = left + 2 := ⟨fuel - 2, by simp [write] at hfuel; omega⟩
    simp [write, readValue, skipSpace_cons (rfl : isSpace '\x7b' = false), hopen, readMembers,
      skipSpace_cons (rfl : isSpace '\x7d' = false), bind, Except.bind, pure, Except.pure]
  | cons first members =>
    obtain ⟨key, value⟩ := first
    simp only [write, writeText_cons, List.length_cons, List.length_append] at hfuel
    obtain ⟨left, rfl⟩ : ∃ left, fuel = left + 3 := ⟨fuel - 3, by omega⟩
    have hends := endsNumber_writeMembers layout level (level + 1) members rest
    have hvalue := hread (key, value) List.mem_cons_self (level + 1) (depth - 1) left _
      (hinner (key, value) List.mem_cons_self) (by simp only; omega) hends
    have hmembers := readMembers_written level (level + 1) rest
      (fun m hm => hread m (List.mem_cons_of_mem _ hm))
      (fun m hm => hinner m (List.mem_cons_of_mem _ hm)) left (by omega)
    have hmember := readMember_written layout key (by omega) hvalue
    simp only [write, writeText_cons, List.cons_append, List.append_assoc, List.nil_append]
    rw [readValue, skipSpace_cons rfl]
    simp only [Char.reduceEq, if_false, if_true, hopen, Bool.false_eq_true,
      (by decide : Char.isDigit '\x7b' = false)]
    rw [readMembers_first, hmember, hmembers]
    rfl

/-! Whole texts -/

theorem exists_fuel (h : v.isWhole = true) (hfuel : 3 * (write layout level v).length ≤ fuel) :
    ∃ left, fuel = left + 1 := by
  obtain ⟨c, cs, htext, -⟩ := exists_cons_of_isWhole h layout level
  rw [htext, List.length_cons] at hfuel
  exact ⟨fuel - 1, by omega⟩

theorem readsBack_of_isWhole (layout : Layout) (v : Value) (h : v.isWhole = true) :
    v.ReadsBack layout := by
  induction v using Value.induction_on with
  | null =>
    intro level depth fuel rest _ hfuel _
    obtain ⟨left, rfl⟩ := exists_fuel h hfuel
    simp [write, readValue, skipSpace_cons (rfl : isSpace 'n' = false), readWord, bind, Except.bind,
      pure, Except.pure]
  | boolean b =>
    intro level depth fuel rest _ hfuel _
    obtain ⟨left, rfl⟩ := exists_fuel h hfuel
    cases b with
    | false =>
      simp [write, readValue, skipSpace_cons (rfl : isSpace 'f' = false), readWord, bind,
        Except.bind, pure, Except.pure]
    | true =>
      simp [write, readValue, skipSpace_cons (rfl : isSpace 't' = false), readWord, bind,
        Except.bind, pure, Except.pure]
  | number n =>
    intro level depth fuel rest _ hfuel hrest
    obtain ⟨left, rfl⟩ := exists_fuel h hfuel
    cases n with
    | real x => cases h
    | whole i => exact readValue_intText h hrest left depth
  | text s =>
    intro level depth fuel rest _ hfuel _
    obtain ⟨left, rfl⟩ := exists_fuel h hfuel
    simp [write, writeText_cons, readValue, skipSpace_cons (rfl : isSpace '"' = false),
      readText_written, bind, Except.bind, pure, Except.pure]
  | list items ih =>
    obtain ⟨-, hitems⟩ := Value.all_list.mp h
    exact readsBack_list (fun v hv => ih v hv (hitems v hv)) hitems
  | object members ih =>
    obtain ⟨-, hmembers⟩ := Value.all_object.mp h
    exact readsBack_object fun m hm => ih m hm (hmembers m hm)

/-- A value of whole numbers that nests no deeper than the limit is read back from its text. -/
theorem readDocument_render (layout : Layout) (v : Value) (h : v.isWhole = true)
    (hdepth : v.depth < depthLimit) : readDocument (v.render layout) = .ok v := by
  have hread := readsBack_of_isWhole layout v h 0 depthLimit
    (3 * (write layout 0 v).length + 3) [] hdepth (by omega) endsNumber_nil
  rw [List.append_nil] at hread
  rw [readDocument, Value.render, String.toList_ofList, readLeading, hread]
  rfl

theorem Value.parse_render (layout : Layout) {v : Value} (h : v.isWhole = true)
    (hdepth : v.depth < depthLimit) : Value.parse (v.render layout) = .ok v.sorted := by
  rw [Value.parse, readDocument_render layout v h hdepth]
  rfl

end WebService.Json
