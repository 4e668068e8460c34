import Mathlib.Data.List.Forall2
import WebService.Proofs.Json.Value
import WebService.Proofs.Toml.Scalar
import WebService.Proofs.Toml.Value

/-!
A way to write values as TOML, and that a document written so tells the value it was written from.
There is no null in a document, and real numbers are not written.
-/
namespace WebService.Toml

open Json (Value)

mutual

def write : Value → List Char
  | .null | .number (.real _) => []
  | .boolean b => if b then ['t', 'r', 'u', 'e'] else ['f', 'a', 'l', 's', 'e']
  | .number (.whole i) => writeInt i
  | .text s => writeText s
  | .list items => '[' :: writeItems items
  | .object members => '\x7b' :: writeMembers members

/-- Items with a comma behind each, and the closing bracket. -/
def writeItems : List Value → List Char
  | [] => [']']
  | item :: items => write item ++ ',' :: writeItems items

/-- Members with commas between them, and the closing brace. -/
def writeMembers : List (String × Value) → List Char
  | [] => ['\x7d']
  | (key, value) :: rest =>
    writeText key ++
      '=' :: (write value ++ ((if rest.isEmpty then [] else [',']) ++ writeMembers rest))

end

/-- A line for each member. -/
def writeLines (members : List (String × Value)) : List Char :=
  members.flatMap fun m => writeText m.1 ++ '=' :: (write m.2 ++ ['\n'])

/-- Whether a value can be written: it has no null and no real numbers, its integers have 64 bits
and a sign, and in its objects no key stands twice or tells a moment. -/
def canWrite (v : Value) : Bool :=
  v.all fun
    | .null | .number (.real _) => false
    | .number (.whole i) => Number.minInt64 ≤ i && i ≤ Number.maxInt64
    | .object members => decide (members.map (·.1)).Nodup && !(members.map (·.1)).contains momentKey
    | _ => true

variable {c : Char} {text : List Char} {v : Value} {items : List Value} {node : Node}
  {members : List (String × Value)} {depth fuel : Nat} {key : String} {i : Int}

theorem exists_cons_of_canWrite (h : canWrite v = true) :
    ∃ c ∈ ['t', 'f', '+', '-', '"', '[', '\x7b'], ∃ cs, write v = c :: cs := by
  match v with
  | .boolean true => exact ⟨'t', by decide, _, rfl⟩
  | .boolean false => exact ⟨'f', by decide, _, rfl⟩
  | .text s => exact ⟨'"', by decide, _, rfl⟩
  | .list _ => exact ⟨'[', by decide, _, by rw [write]⟩
  | .object _ => exact ⟨'\x7b', by decide, _, by rw [write]⟩
  | .number (.whole i) =>
    rw [write, writeInt]
    split
    · exact ⟨'-', by decide, _, rfl⟩
    · exact ⟨'+', by decide, _, rfl⟩

/-- A value begins where blanks, line breaks and comments end. -/
theorem skip_write (h : canWrite v = true) (rest : List Char) :
    skipBlank (write v ++ rest) = write v ++ rest ∧
      skipLines (write v ++ rest) = write v ++ rest := by
  obtain ⟨c, hc, cs, htext⟩ := exists_cons_of_canWrite h
  rw [htext, List.cons_append]
  simp only [List.mem_cons, List.not_mem_nil, or_false] at hc
  rcases hc with rfl | rfl | rfl | rfl | rfl | rfl | rfl
  all_goals exact ⟨rfl, rfl⟩

/-! Values -/

/-- Whether a node tells a value and is read from what is written for it, where lists and tables may
nest as deep as in the value. -/
structure Node.IsWritten (node : Node) (v : Value) : Prop where
  toValue : node.toValue = v
  withMoments : node.withMoments? = some node
  read : ∀ depth rest, v.depth ≤ depth → IsBehind rest →
    readValue depth (write v ++ rest) = some (node, rest)

theorem readValue_of_scalar (hlist : c ≠ '[') (htable : c ≠ '\x7b') :
    readValue depth (c :: cs) = readScalar (c :: cs) := by
  cases depth with
  | zero => rfl
  | succ depth =>
    rw [readValue]
    · rintro rest heq
      exact hlist (List.cons.inj heq).1
    · rintro rest heq
      exact htable (List.cons.inj heq).1

theorem isWritten_boolean (b : Bool) : (Node.boolean b).IsWritten (.boolean b) := by
  refine ⟨rfl, rfl, ?_⟩
  intro depth rest _ _
  cases b with
  | false => exact readValue_of_scalar (by decide) (by decide)
  | true => exact readValue_of_scalar (by decide) (by decide)

theorem isWritten_text (s : String) : (Node.text s).IsWritten (.text s) := by
  refine ⟨rfl, rfl, ?_⟩
  intro depth rest _ hrest
  have hread := readText_written s hrest
  have hscalar : readScalar ('"' :: (s.toList.flatMap writeChar ++ '"' :: rest)) =
      some (.text s, rest) := by
    simp [readScalar, Quoting.ofMark?, hread]
  rw [write, writeText, List.cons_append, List.append_assoc,
    readValue_of_scalar (by decide) (by decide)]
  exact hscalar

theorem isWritten_integer (hbounds : integer? i = some i) :
    (Node.integer i).IsWritten (.number (.whole i)) := by
  refine ⟨rfl, rfl, ?_⟩
  intro depth rest _ hrest
  rw [write, ← readNumeric_writeInt hbounds hrest, writeInt]
  split
  · exact readValue_of_scalar (by decide) (by decide)
  · exact readValue_of_scalar (by decide) (by decide)

/-! Lists -/

theorem readItems_of_item {item : List Char → Option (Node × List Char)} {behind more : List Char}
    {nodes : List Node} (hskip : skipLines text = text)
    (hitem : item text = some (node, ',' :: behind))
    (hend : ∀ cs, text ≠ ']' :: cs) (hmore : readItems item fuel behind = some (nodes, more)) :
    readItems item (fuel + 1) text = some (node :: nodes, more) := by
  rw [readItems, hskip]
  split
  · rename_i rest
    exact absurd rfl (hend rest)
  · simp [hitem, skipLines, skipFrom, hmore, isPlain, isBlank]

theorem readItems_written {nodes : List Node} (h : List.Forall₂ Node.IsWritten nodes items)
    (hcan : ∀ v ∈ items, canWrite v = true) (hdepth : ∀ v ∈ items, v.depth ≤ depth)
    (rest : List Char) (fuel : Nat) (hfuel : items.length < fuel) :
    readItems (readValue depth) fuel (writeItems items ++ rest) = some (nodes, rest) := by
  induction h generalizing fuel with
  | nil =>
    obtain ⟨left, rfl⟩ := Nat.exists_eq_add_one.mpr hfuel
    rfl
  | @cons node item nodes items hnode _ ih =>
    obtain ⟨left, rfl⟩ := Nat.exists_eq_add_one.mpr (Nat.zero_lt_of_lt hfuel)
    have hitem := hcan item List.mem_cons_self
    have hread := hnode.read depth _ (hdepth item List.mem_cons_self)
      (isBehind_comma (writeItems items ++ rest))
    have hmore := ih (fun v hv => hcan v (List.mem_cons_of_mem _ hv))
      (fun v hv => hdepth v (List.mem_cons_of_mem _ hv)) left (Nat.lt_of_succ_lt_succ hfuel)
    rw [writeItems, List.append_assoc, List.cons_append]
    refine readItems_of_item (skip_write hitem _).2 hread ?_ hmore
    obtain ⟨c, hc, cs, htext⟩ := exists_cons_of_canWrite hitem
    intro more heq
    rw [htext] at heq
    cases heq
    revert hc
    decide

theorem length_le_writeItems (items : List Value) : items.length ≤ (writeItems items).length := by
  induction items with
  | nil => exact Nat.zero_le _
  | cons item items ih =>
    rw [writeItems, List.length_append, List.length_cons, List.length_cons]
    omega

theorem itemValues_of_isWritten {nodes : List Node} (h : List.Forall₂ Node.IsWritten nodes items) :
    itemValues nodes = items ∧ nodesWithMoments? nodes = some nodes := by
  induction h with
  | nil => exact ⟨rfl, rfl⟩
  | cons hnode _ ih =>
    refine ⟨?_, ?_⟩
    · rw [itemValues, hnode.toValue, ih.1]
    · rw [nodesWithMoments?, hnode.withMoments, ih.2]
      rfl

theorem isWritten_list {nodes : List Node} (h : List.Forall₂ Node.IsWritten nodes items)
    (hcan : ∀ v ∈ items, canWrite v = true) : (Node.list nodes).IsWritten (.list items) := by
  obtain ⟨hvalues, hmoments⟩ := itemValues_of_isWritten h
  refine ⟨?_, ?_, ?_⟩
  · rw [Node.toValue, hvalues]
  · rw [Node.withMoments?, hmoments]
    rfl
  · intro depth rest hdepth _
    rw [Value.depth] at hdepth
    obtain ⟨inner, rfl⟩ := Nat.exists_eq_add_one.mpr (Nat.zero_lt_of_lt hdepth)
    have hitems : ∀ v ∈ items, v.depth ≤ inner := by
      intro v hv
      have hv := Json.depth_le_itemsDepth hv
      omega
    have hfuel : items.length < (writeItems items ++ rest).length + 1 := by
      have hlength := length_le_writeItems items
      rw [List.length_append]
      omega
    have hread := readItems_written h hcan hitems rest _ hfuel
    rw [write, List.cons_append, readValue, hread]
    rfl

/-! Objects -/

/-- Whether an entry tells a member of an object and is read from what is written for it. -/
def IsEntry (e : String × Node) (m : String × Value) : Prop := e.1 = m.1 ∧ e.2.IsWritten m.2

theorem readPair_written {m : String × Value} {e : String × Node} (h : IsEntry e m)
    (hcan : canWrite m.2 = true) (hdepth : m.2.depth ≤ depth) (hrest : IsBehind rest) :
    readPair (readValue depth) (writeText m.1 ++ '=' :: (write m.2 ++ rest)) =
      some ((([], e.1), e.2), rest) := by
  obtain ⟨hkey, hnode⟩ := h
  simp [readPair, readPath_writeText, (skip_write hcan rest).1, hnode.read depth rest hdepth hrest,
    hkey]

theorem readPairs_written {m : String × Value} {entries : Entries} {e : String × Node}
    (h : IsEntry e m) (hmore : List.Forall₂ IsEntry entries members)
    (hcan : ∀ k ∈ m :: members, canWrite k.2 = true)
    (hdepth : ∀ k ∈ m :: members, k.2.depth ≤ depth)
    (rest : List Char) (fuel : Nat) (hfuel : members.length < fuel) :
    readPairs (readValue depth) fuel (writeMembers (m :: members) ++ rest) =
      some ((e :: entries).map fun e => (([], e.1), e.2), rest) := by
  induction hmore generalizing m e fuel with
  | nil =>
    obtain ⟨left, rfl⟩ := Nat.exists_eq_add_one.mpr hfuel
    have hpair := readPair_written h (hcan m List.mem_cons_self) (hdepth m List.mem_cons_self)
      (isBehind_brace rest)
    simp [writeMembers, readPairs, hpair, skipBlank_cons (rfl : isBlank '\x7d' = false)]
  | @cons next n entries members hnext _ ih =>
    obtain ⟨left, rfl⟩ := Nat.exists_eq_add_one.mpr (Nat.zero_lt_of_lt hfuel)
    have hpair := readPair_written h (hcan m List.mem_cons_self) (hdepth m List.mem_cons_self)
      (isBehind_comma (writeMembers (n :: members) ++ rest))
    have hrest := ih hnext (fun k hk => hcan k (List.mem_cons_of_mem _ hk))
      (fun k hk => hdepth k (List.mem_cons_of_mem _ hk)) left (Nat.lt_of_succ_lt_succ hfuel)
    obtain ⟨key, value⟩ := m
    rw [writeMembers]
    simp [readPairs, hpair, hrest, skipBlank_cons (rfl : isBlank ',' = false)]

theorem length_le_writeMembers (members : List (String × Value)) :
    members.length ≤ (writeMembers members).length := by
  induction members with
  | nil => exact Nat.zero_le _
  | cons m members ih =>
    simp only [writeMembers, List.length_append, List.length_cons]
    omega

/-! Entries -/

namespace Entries

theorem insert?_of_not_mem {entries : Entries} (h : key ∉ entries.map (·.1)) :
    entries.insert? key node = some (entries ++ [(key, node)]) := by
  induction entries with
  | nil => rfl
  | cons first rest ih =>
    obtain ⟨k, other⟩ := first
    rw [List.map_cons, List.mem_cons, not_or] at h
    have hrest := ih h.2
    rw [insert?] at hrest
    rw [insert?, update?, if_neg (Ne.symm h.1), hrest]
    rfl

/-- If each step puts an entry with a new key behind the others, all do so together. -/
theorem foldlM_eq_some {σ : Type} {step : σ → String × Node → Option σ} (state : Entries → σ)
    (hstep : ∀ before e, e.1 ∉ before.map (·.1) →
      step (state before) e = some (state (before ++ [e])))
    (before : Entries) {entries : Entries} (hnodup : ((before ++ entries).map (·.1)).Nodup) :
    entries.foldlM step (state before) = some (state (before ++ entries)) := by
  induction entries generalizing before with
  | nil => rw [List.append_nil]; rfl
  | cons e entries ih =>
    have hnew : e.1 ∉ before.map (·.1) := not_mem_of_nodup hnodup
    have hcons : before ++ e :: entries = (before ++ [e]) ++ entries := by simp
    rw [hcons] at hnodup ⊢
    rw [List.foldlM_cons, hstep before e hnew]
    exact ih _ hnodup

theorem ofPairs?_eq {entries : Entries} (hnodup : (entries.map (·.1)).Nodup) :
    ofPairs? (entries.map fun e => (([], e.1), e.2)) = some entries := by
  rw [ofPairs?, List.foldlM_map]
  refine foldlM_eq_some id ?_ [] hnodup
  intro before e hnew
  exact insert?_of_not_mem hnew

theorem ofStatements?_eq {entries : Entries} (hnodup : (entries.map (·.1)).Nodup) :
    ofStatements? (entries.map fun e => .assign [] e.1 e.2) = some entries := by
  have hdraft : (entries.map fun e => Statement.assign [] e.1 e.2).foldlM Draft.extend? ⟨[], []⟩ =
      some ⟨entries, []⟩ := by
    rw [List.foldlM_map]
    refine foldlM_eq_some (fun all => Draft.mk all []) ?_ [] hnodup
    intro before e hnew
    have hassign : before.changeAt? .implied (assign? [] e.1 e.2) [] .header =
        some (before ++ [e]) := insert?_of_not_mem hnew
    rw [Draft.extend?, hassign]
    rfl
  rw [ofStatements?, hdraft]
  rfl

end Entries

theorem entryValues_of_isWritten {entries : Entries} (h : List.Forall₂ IsEntry entries members) :
    entryValues entries = members ∧ entriesWithMoments? entries = some entries ∧
      entries.map (·.1) = members.map (·.1) := by
  induction h with
  | nil => exact ⟨rfl, rfl, rfl⟩
  | @cons e m entries members hentry _ ih =>
    obtain ⟨key, node⟩ := e
    obtain ⟨name, value⟩ := m
    obtain ⟨hkey, hnode⟩ := hentry
    cases hkey
    obtain ⟨hvalues, hmoments, hkeys⟩ := ih
    refine ⟨?_, ?_, ?_⟩
    · rw [entryValues, hnode.toValue, hvalues]
    · rw [entriesWithMoments?, hnode.withMoments, hmoments]
      rfl
    · rw [List.map_cons, List.map_cons, hkeys]

/-- A table none of whose keys tells a moment stands for itself. -/
theorem tableWithMoments?_eq {entries : Entries} (source : Source)
    (hmoments : entriesWithMoments? entries = some entries)
    (hkeys : momentKey ∉ entries.map (·.1)) :
    tableWithMoments? source entries = some (.table source entries) := by
  cases entries with
  | nil => rfl
  | cons first rest =>
    obtain ⟨key, node⟩ := first
    rw [List.map_cons, List.mem_cons, not_or] at hkeys
    rw [entriesWithMoments?] at hmoments
    obtain ⟨other, hnode, hrest⟩ := Option.bind_eq_some_iff.mp hmoments
    obtain ⟨others, hothers, heq⟩ := Option.bind_eq_some_iff.mp hrest
    cases heq
    unfold tableWithMoments?
    rw [if_neg (Ne.symm hkeys.1), hnode, hothers]
    rfl

theorem canWrite_object (h : canWrite (.object members) = true) :
    (members.map (·.1)).Nodup ∧ momentKey ∉ members.map (·.1) ∧
      ∀ m ∈ members, canWrite m.2 = true := by
  obtain ⟨hkeys, hmembers⟩ := Value.all_object.mp h
  simp only [Bool.and_eq_true, decide_eq_true_iff, Bool.not_eq_true', List.contains_eq_mem,
    decide_eq_false_iff_not] at hkeys
  exact ⟨hkeys.1, hkeys.2, hmembers⟩

theorem isWritten_object {entries : Entries} (h : List.Forall₂ IsEntry entries members)
    (hcan : canWrite (.object members) = true) :
    (Node.table .braces entries).IsWritten (.object members) := by
  obtain ⟨hvalues, hmoments, hkeys⟩ := entryValues_of_isWritten h
  obtain ⟨hnodup, hmoment, hmembers⟩ := canWrite_object hcan
  rw [← hkeys] at hnodup hmoment
  refine ⟨?_, ?_, ?_⟩
  · rw [Node.toValue, hvalues]
  · rw [Node.withMoments?, tableWithMoments?_eq .braces hmoments hmoment]
  · intro depth rest hdepth _
    rw [Value.depth] at hdepth
    obtain ⟨inner, rfl⟩ := Nat.exists_eq_add_one.mpr (Nat.zero_lt_of_lt hdepth)
    have hinner : ∀ m ∈ members, m.2.depth ≤ inner := by
      intro m hm
      have hm := Json.depth_le_membersDepth hm
      omega
    rw [write, List.cons_append, readValue]
    cases h with
    | nil => rfl
    | @cons e m entries members hentry hmore =>
      have hfuel : members.length < (writeMembers (m :: members) ++ rest).length + 1 := by
        have hlength := length_le_writeMembers (m :: members)
        rw [List.length_cons] at hlength
        rw [List.length_append]
        omega
      have hread := readPairs_written hentry hmore hmembers hinner rest _ hfuel
      have hquote : skipBlank (writeMembers (m :: members) ++ rest) =
          writeMembers (m :: members) ++ rest := skipBlank_cons rfl
      rw [readBraces, hquote]
      split
      · rename_i heq
        cases heq
      · refine Option.bind_eq_some_iff.mpr ⟨_, hread, ?_⟩
        exact Option.bind_eq_some_iff.mpr ⟨_, Entries.ofPairs?_eq hnodup, rfl⟩

theorem exists_forall₂ {α β : Type} {R : α → β → Prop} {l : List β} (h : ∀ b ∈ l, ∃ a, R a b) :
    ∃ l', List.Forall₂ R l' l := by
  induction l with
  | nil => exact ⟨[], .nil⟩
  | cons b l ih =>
    obtain ⟨a, ha⟩ := h b List.mem_cons_self
    obtain ⟨as, has⟩ := ih fun b hb => h b (List.mem_cons_of_mem _ hb)
    exact ⟨a :: as, .cons ha has⟩

theorem exists_entries (h : ∀ m ∈ members, canWrite m.2 = true → ∃ node : Node, node.IsWritten m.2)
    (hcan : ∀ m ∈ members, canWrite m.2 = true) :
    ∃ entries : Entries, List.Forall₂ IsEntry entries members := by
  refine exists_forall₂ fun m hm => ?_
  obtain ⟨node, hnode⟩ := h m hm (hcan m hm)
  exact ⟨(m.1, node), rfl, hnode⟩

/-- A value that can be written is told by a node, which is read from what is written for it. -/
theorem exists_isWritten (v : Value) (h : canWrite v = true) : ∃ node : Node, node.IsWritten v := by
  induction v using Value.induction_on with
  | null => cases h
  | boolean b => exact ⟨_, isWritten_boolean b⟩
  | text s => exact ⟨_, isWritten_text s⟩
  | number n =>
    cases n with
    | real x => cases h
    | whole i =>
      have hbounds : (Number.minInt64 ≤ i && i ≤ Number.maxInt64) = true := h
      exact ⟨_, isWritten_integer (if_pos hbounds)⟩
  | list items ih =>
    obtain ⟨-, hitems⟩ := Value.all_list.mp h
    obtain ⟨nodes, hnodes⟩ := exists_forall₂ fun v hv => ih v hv (hitems v hv)
    exact ⟨_, isWritten_list hnodes hitems⟩
  | object members ih =>
    obtain ⟨entries, hentries⟩ := exists_entries ih (canWrite_object h).2.2
    exact ⟨_, isWritten_object hentries h⟩

/-! Documents -/

theorem readStatement_written {m : String × Value} {e : String × Node} (h : IsEntry e m)
    (hcan : canWrite m.2 = true) (hdepth : m.2.depth ≤ depthLimit) (rest : List Char) :
    readStatement (writeText m.1 ++ '=' :: (write m.2 ++ '\n' :: rest)) =
      some (.assign [] e.1 e.2, rest) := by
  have hpair := readPair_written h hcan hdepth (isBehind_line rest)
  have hend : endLine? ('\n' :: rest) = some rest := rfl
  unfold readStatement
  split
  · rename_i heq
    cases heq
  · simp [hpair, hend]

theorem readStatements_written {entries : Entries} (h : List.Forall₂ IsEntry entries members)
    (hcan : ∀ m ∈ members, canWrite m.2 = true) (hdepth : ∀ m ∈ members, m.2.depth ≤ depthLimit)
    (fuel : Nat) (hfuel : members.length < fuel) :
    readStatements fuel (writeLines members) = some (entries.map fun e => .assign [] e.1 e.2) := by
  induction h generalizing fuel with
  | nil =>
    obtain ⟨left, rfl⟩ := Nat.exists_eq_add_one.mpr hfuel
    rfl
  | @cons e m entries members hentry _ ih =>
    obtain ⟨left, rfl⟩ := Nat.exists_eq_add_one.mpr (Nat.zero_lt_of_lt hfuel)
    have hstatement := readStatement_written hentry (hcan m List.mem_cons_self)
      (hdepth m List.mem_cons_self) (writeLines members)
    have hrest := ih (fun m hm => hcan m (List.mem_cons_of_mem _ hm))
      (fun m hm => hdepth m (List.mem_cons_of_mem _ hm)) left (Nat.lt_of_succ_lt_succ hfuel)
    have hline : writeLines (m :: members) =
        writeText m.1 ++ '=' :: (write m.2 ++ '\n' :: writeLines members) := by
      simp [writeLines]
    have hbegin :
        endLine? (writeText m.1 ++ '=' :: (write m.2 ++ '\n' :: writeLines members)) = none :=
      rfl
    have hquote : skipBlank (writeText m.1 ++ '=' :: (write m.2 ++ '\n' :: writeLines members)) =
        writeText m.1 ++ '=' :: (write m.2 ++ '\n' :: writeLines members) := skipBlank_cons rfl
    rw [hline, readStatements, hbegin, hquote, hstatement]
    refine Option.bind_eq_some_iff.mpr ⟨_, rfl, ?_⟩
    exact Option.bind_eq_some_iff.mpr ⟨_, hrest, rfl⟩

/-- A document with a line for each member of an object tells the object. -/
theorem told?_writeLines (hcan : canWrite (.object members) = true)
    (hdepth : ∀ m ∈ members, m.2.depth ≤ depthLimit) :
    told? (String.ofList (writeLines members)) = some (.object members) := by
  obtain ⟨hnodup, hmoment, hmembers⟩ := canWrite_object hcan
  obtain ⟨entries, hentries⟩ := exists_entries (fun m _ => exists_isWritten m.2) hmembers
  obtain ⟨hvalues, hmoments, hkeys⟩ := entryValues_of_isWritten hentries
  rw [← hkeys] at hnodup hmoment
  have hfuel : members.length < (writeLines members).length + 1 :=
    Nat.lt_succ_of_le (Text.length_le_length_flatMap (fun _ => List.cons_ne_nil _ _) members)
  have hread := readStatements_written hentries hmembers hdepth _ hfuel
  have hmark : skipMark (writeLines members) = writeLines members := by
    cases members with
    | nil => rfl
    | cons m members => rfl
  have hparse : Entries.parse? (String.ofList (writeLines members)) = some entries := by
    rw [Entries.parse?, String.toList_ofList, hmark, hread]
    simp [Entries.ofStatements?_eq hnodup, tableWithMoments?_eq .header hmoments hmoment]
  rw [told?, hparse, Option.map_some, hvalues]

end WebService.Toml
