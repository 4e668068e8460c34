import Mathlib.Data.List.Nodup
import WebService.Proofs.Text.Split

/-!
Variables put into a format. Replacing one variable after the other comes to the same as putting all
values in at once, unless a value that is already in completes the name of a variable still to come.
-/
namespace WebService.Text

/-- Names of variables with what is put in for them. -/
abbrev Table := List (List Char × List Char)

namespace Table

def names (table : Table) : List (List Char) := table.map (·.1)

/-- Whether a variable stands at the start of a text, where the longest name that fits counts. -/
def StandsAt (table : Table) (name text : List Char) : Prop :=
  name <+: text ∧ ∀ other ∈ table.names, other <+: text → other.length ≤ name.length

instance (table : Table) (name text : List Char) : Decidable (table.StandsAt name text) :=
  inferInstanceAs (Decidable (_ ∧ _))

/-- The line that a format makes: a value for each variable that stands in it, and the format itself
everywhere else. -/
inductive Fills (table : Table) : List Char → List Char → Prop
  | nil : Fills table [] []
  | value {name value rest line : List Char} (hmem : (name, value) ∈ table)
      (hstands : table.StandsAt name (name ++ rest)) (h : Fills table rest line) :
      Fills table (name ++ rest) (value ++ line)
  | text {c : Char} {rest line : List Char} (hnone : ∀ name ∈ table.names, ¬ name <+: c :: rest)
      (h : Fills table rest line) : Fills table (c :: rest) (c :: line)

/-- Every variable replaced in a line, one after the other. -/
def replaceEach (table : Table) (line : List Char) : List Char :=
  table.foldl (fun line entry => replaceAll entry.1 entry.2 line) line

/-- Whether one of two texts is the beginning of the other. -/
def Agrees (first second : List Char) : Prop := first <+: second ∨ second <+: first

instance (first second : List Char) : Decidable (Agrees first second) :=
  inferInstanceAs (Decidable (_ ∨ _))

/-- Whether a format goes on with a text, at least up to where a variable stands in it. -/
def GoesOn (table : Table) (format text : List Char) : Prop :=
  text <+: format ∨ ∃ n < text.length, text.take n <+: format ∧
    ∃ name ∈ table.names, name <+: format.drop n

instance (table : Table) (format text : List Char) : Decidable (table.GoesOn format text) :=
  inferInstanceAs (Decidable (_ ∨ ∃ n < text.length, _))

/-- Whether a text ends with the beginning of a name, and the rest of the name, which is not empty,
may follow there. -/
def Begins (name text : List Char) (follows : List Char → Prop) : Prop :=
  ∃ n < name.length, 0 < n ∧ name.take n <:+ text ∧ follows (name.drop n)

instance (name text : List Char) (follows : List Char → Prop) [DecidablePred follows] :
    Decidable (Begins name text follows) :=
  inferInstanceAs (Decidable (∃ n < name.length, _))

/-- Whether the value of an entry leaves a name alone where the entry stands in a format: the value
does not hold the name, nor go on with it where it begins before, nor begin it for what is
behind. -/
def Spares (table : Table) (format name : List Char) (entry : List Char × List Char) : Prop :=
  ∀ n < format.length, table.StandsAt entry.1 (format.drop n) →
    ¬ name <:+: entry.2 ∧ ¬ Begins name (format.take n) (Agrees entry.2) ∧
      ¬ Begins name entry.2 (table.GoesOn (format.drop (n + entry.1.length)))

instance (table : Table) (format name : List Char) (entry : List Char × List Char) :
    Decidable (table.Spares format name entry) :=
  inferInstanceAs (Decidable (∀ n < format.length, _ → _))

/-- Whether no variable is mistaken once those before it in the table are replaced. -/
def Undisturbed (table : Table) (format : List Char) : Prop :=
  table.Pairwise fun earlier later => table.Spares format later.1 earlier

instance (table : Table) (format : List Char) : Decidable (table.Undisturbed format) :=
  inferInstanceAs (Decidable (List.Pairwise _ _))

/-- Whether a name begins with a mark and does not hold it again. -/
def IsMarked (mark : Char) (name : List Char) : Prop := ∃ tail, name = mark :: tail ∧ mark ∉ tail

/-- Whether all names are marked, and one that begins with another comes before it. -/
structure IsProper (mark : Char) (table : Table) : Prop where
  marked : ∀ name ∈ table.names, IsMarked mark name
  ordered : table.names.Pairwise fun earlier later => ¬ earlier <+: later

variable {mark c : Char} {table filled done todo : Table} {name value text tail lead : List Char}
  {format before rest line other : List Char}

theorem IsMarked.ne_nil (h : IsMarked mark name) : name ≠ [] := by
  obtain ⟨tail, rfl, -⟩ := h
  exact List.cons_ne_nil _ _

theorem mem_names (h : (name, value) ∈ table) : name ∈ table.names := List.mem_map.mpr ⟨_, h, rfl⟩

theorem IsProper.nodup (h : table.IsProper mark) : table.names.Nodup := by
  refine h.ordered.imp fun hprefix heq => ?_
  rw [heq] at hprefix
  exact hprefix List.prefix_rfl

/-! One line for each format -/

theorem StandsAt.eq (h : table.StandsAt name text) (hother : table.StandsAt other text)
    (hname : name ∈ table.names) (hname' : other ∈ table.names) : name = other := by
  have hlength : name.length = other.length :=
    Nat.le_antisymm (hother.2 name hname h.1) (h.2 other hname' hother.1)
  exact (List.prefix_of_prefix_length_le h.1 hother.1 (Nat.le_of_eq hlength)).eq_of_length hlength

/-- A variable that stands in a format is filled. -/
theorem Fills.exists_of_standsAt (hproper : table.IsProper mark) (hmem : (name, value) ∈ table)
    (hstands : table.StandsAt name (name ++ rest)) (h : Fills table (name ++ rest) line) :
    ∃ behind, Fills table rest behind ∧ line = value ++ behind := by
  generalize hformat : name ++ rest = format at h hstands
  cases h with
  | nil =>
    exact absurd (List.append_eq_nil_iff.mp hformat).1 (hproper.marked _ (mem_names hmem)).ne_nil
  | text hnone _ => exact absurd hstands.1 (hnone name (mem_names hmem))
  | @value other value' rest' behind hmem' hstands' h =>
    have hname := hstands.eq hstands' (mem_names hmem) (mem_names hmem')
    subst hname
    have hvalue : (name, value) = (name, value') :=
      List.inj_on_of_nodup_map hproper.nodup hmem hmem' rfl
    cases List.append_cancel_left hformat
    cases hvalue
    exact ⟨behind, h, rfl⟩

/-- A format makes one line only. -/
theorem Fills.unique (hproper : table.IsProper mark) (h : Fills table format line)
    (hother : Fills table format other) : line = other := by
  induction h generalizing other with
  | nil =>
    generalize hformat : ([] : List Char) = format at hother
    cases hother with
    | nil => rfl
    | text _ _ => cases hformat
    | value hmem _ _ =>
      exact absurd (List.append_eq_nil_iff.mp hformat.symm).1
        (hproper.marked _ (mem_names hmem)).ne_nil
  | value hmem hstands _ ih =>
    obtain ⟨behind, hbehind, rfl⟩ := hother.exists_of_standsAt hproper hmem hstands
    rw [ih hbehind]
  | @text c rest line hnone _ ih =>
    generalize hformat : c :: rest = format at hother
    cases hother with
    | nil => cases hformat
    | text _ h =>
      cases hformat
      rw [ih h]
    | @value name _ rest' _ hmem _ _ =>
      have hprefix : name <+: c :: rest := hformat ▸ List.prefix_append name rest'
      exact absurd hprefix (hnone _ (mem_names hmem))

/-! One variable replaced -/

/-- The names of one table with those of another, which has the same values but for one name. -/
structure Replaces (name value : List Char) (table filled : Table) : Prop where
  names : filled.names = table.names
  mem : (name, value) ∈ filled
  others : ∀ entry ∈ table, entry.1 ≠ name → entry ∈ filled

/-- Whether a variable can be told from all else while it is replaced: the variables that are still
to come stand for themselves, and those that are replaced spare it. -/
def IsTold (table : Table) (format name : List Char) : Prop :=
  ∀ entry ∈ table, entry = (name, name) ∨ (entry.2 = entry.1 ∧ ¬ name <+: entry.1) ∨
    entry.1 ≠ name ∧ table.Spares format name entry

theorem Spares.of_append {entry : List Char × List Char} (h : table.Spares format name entry)
    (hne : entry.1 ≠ []) (hformat : format = before ++ (entry.1 ++ rest))
    (hstands : table.StandsAt entry.1 (entry.1 ++ rest)) :
    ¬ name <:+: entry.2 ∧ ¬ Begins name before (Agrees entry.2) ∧
      ¬ Begins name entry.2 (table.GoesOn rest) := by
  have hlength : 0 < entry.1.length := List.length_pos_iff.mpr hne
  have hall := h before.length (by rw [hformat]; simp; omega)
  rw [hformat, ← List.drop_drop, List.drop_left, List.drop_left, List.take_left] at hall
  exact hall hstands

theorem begins_of_append {follows : List Char → Prop} (hlead : lead ≠ []) (htail : tail ≠ [])
    (hname : lead ++ tail = name) (htext : lead <:+ text) (hfollows : follows tail) :
    Begins name text follows := by
  subst hname
  refine ⟨lead.length, ?_, List.length_pos_iff.mpr hlead, ?_, ?_⟩
  · rw [List.length_append]
    exact Nat.lt_add_of_pos_right (List.length_pos_iff.mpr htail)
  · rwa [List.take_left]
  · rwa [List.drop_left]

/-- What the line begins with that a format makes, the format goes on with. -/
theorem Fills.goesOn (h : Fills table rest line) (htext : text <+: line) :
    table.GoesOn rest text := by
  induction h generalizing text with
  | nil => exact Or.inl htext
  | @text c rest line hnone _ ih =>
    cases text with
    | nil => exact Or.inl List.nil_prefix
    | cons d text =>
      obtain ⟨rfl, hbehind⟩ := List.cons_prefix_cons.mp htext
      rcases ih hbehind with hwhole | ⟨n, hn, hupTo, hvariable⟩
      · exact Or.inl (List.cons_prefix_cons.mpr ⟨rfl, hwhole⟩)
      · exact Or.inr ⟨n + 1, Nat.succ_lt_succ hn, List.cons_prefix_cons.mpr ⟨rfl, hupTo⟩, hvariable⟩
  | @value name value rest line hmem _ _ _ =>
    cases text with
    | nil => exact Or.inl List.nil_prefix
    | cons d text =>
      exact Or.inr
        ⟨0, Nat.succ_pos _, List.nil_prefix, name, mem_names hmem, List.prefix_append _ _⟩

variable (hmarked : ∀ other ∈ table.names, IsMarked mark other) (hname : name ∈ table.names)
  (htold : table.IsTold format name)

include hmarked hname htold

/-- If a name has begun in a format, and the line goes on with the rest of the name, so does the
format. -/
theorem Fills.prefix_of_prefix (h : Fills table rest line) (hformat : format = before ++ rest)
    (hlead : lead ≠ []) (hbefore : lead <:+ before) (hwhole : lead ++ tail = name)
    (hmark : mark ∉ tail) (htail : tail <+: line) : tail <+: rest := by
  induction h generalizing before lead tail with
  | nil => exact htail
  | @text c rest line hnone _ ih =>
    cases tail with
    | nil => exact List.nil_prefix
    | cons d tail =>
      obtain ⟨rfl, hbehind⟩ := List.cons_prefix_cons.mp htail
      rw [List.mem_cons, not_or] at hmark
      have hlonger : lead ++ [d] <:+ before ++ [d] := by
        obtain ⟨front, rfl⟩ := hbefore
        exact ⟨front, by simp⟩
      have hnext : format = (before ++ [d]) ++ rest := by simp [hformat]
      exact List.cons_prefix_cons.mpr
        ⟨rfl, ih hnext (by simp) hlonger (by simp [hwhole]) hmark.2 hbehind⟩
  | @value other value rest line hmem hstands _ _ =>
    cases tail with
    | nil => exact List.nil_prefix
    | cons d tail =>
      -- A name stands for itself and would begin with the mark, or its value spares what has begun.
      have hitself : ∀ {text : List Char}, IsMarked mark text → ¬ d :: tail <+: text ++ line := by
        rintro text ⟨behind, rfl, -⟩ hprefix
        obtain ⟨rfl, -⟩ := List.cons_prefix_cons.mp hprefix
        exact hmark List.mem_cons_self
      rcases htold _ hmem with hentry | ⟨hvalue, -⟩ | ⟨-, hspares⟩
      · cases hentry
        exact absurd htail (hitself (hmarked _ hname))
      · cases hvalue
        exact absurd htail (hitself (hmarked _ (mem_names hmem)))
      · have hquiet := hspares.of_append (hmarked _ (mem_names hmem)).ne_nil hformat hstands
        have hagrees : Agrees value (d :: tail) :=
          List.prefix_or_prefix_of_prefix (List.prefix_append value line) htail
        exact absurd (begins_of_append hlead (List.cons_ne_nil _ _) hwhole hbefore hagrees)
          hquiet.2.1

/-- A name is not found in a variable that stands for itself. -/
theorem not_prefix_of_itself (h : Fills table rest line) (hother : other ∈ table.names)
    (hformat : format = before ++ (other ++ rest)) (hstands : table.StandsAt other (other ++ rest))
    (hno : ¬ name <+: other) :
    ∀ behind, behind ≠ [] → behind <:+ other → ¬ name <+: behind ++ line := by
  rintro behind hne ⟨front, hfront⟩ hprefix
  obtain ⟨tail, rfl, htail⟩ := hmarked _ hother
  obtain ⟨name, rfl, hrest⟩ := hmarked _ hname
  cases front with
  | nil =>
    -- The whole variable: the name would be a longer one that fits the format there.
    rw [List.nil_append] at hfront
    subst hfront
    rcases List.prefix_or_prefix_of_prefix hprefix (List.prefix_append (mark :: tail) line)
      with hshort | ⟨longer, hlonger⟩
    · exact hno hshort
    · have hne : longer ≠ [] := by
        rintro rfl
        rw [List.append_nil] at hlonger
        exact hno (hlonger ▸ List.prefix_rfl)
      have hmark : mark ∉ longer := by
        rw [List.cons_append, List.cons.injEq] at hlonger
        exact fun hmem => hrest (hlonger.2 ▸ List.mem_append_right _ hmem)
      rw [← hlonger, List.prefix_append_right_inj] at hprefix
      have hnext : format = (before ++ mark :: tail) ++ rest := by simp [hformat]
      have hfits := h.prefix_of_prefix hmarked hname htold hnext (List.cons_ne_nil _ _)
        (List.suffix_append _ _) hlonger hmark hprefix
      have hlength := hstands.2 _ hname
        (hlonger ▸ (List.prefix_append_right_inj (mark :: tail)).mpr hfits)
      rw [← hlonger, List.length_append] at hlength
      exact hne (List.length_eq_zero_iff.mp (by omega))
  | cons d front =>
    cases behind with
    | nil => exact hne rfl
    | cons c behind =>
      cases hfront
      obtain ⟨rfl, -⟩ := List.cons_prefix_cons.mp hprefix
      exact htail (List.mem_append_right _ List.mem_cons_self)

/-- Replacing a variable that can be told puts its value in wherever it stands, and changes nothing
else. -/
theorem Fills.replaceAll (hreplaces : Replaces name value table filled)
    (h : Fills table rest line) (hformat : format = before ++ rest) :
    Fills filled rest (replaceAll name value line) := by
  have hstay : ∀ {other text : List Char},
      table.StandsAt other text → filled.StandsAt other text := by
    intro other text hstands
    rwa [StandsAt, hreplaces.names]
  induction h generalizing before with
  | nil => exact .nil
  | @text c rest line hnone h ih =>
    have hnext : format = (before ++ [c]) ++ rest := by simp [hformat]
    have hno : ¬ name <+: c :: line := by
      obtain ⟨tail, rfl, hmark⟩ := hmarked _ hname
      intro hprefix
      obtain ⟨rfl, htail⟩ := List.cons_prefix_cons.mp hprefix
      have hfits := h.prefix_of_prefix hmarked hname htold hnext (List.cons_ne_nil _ _)
        (List.suffix_append _ _) List.singleton_append hmark htail
      exact hnone _ hname (List.cons_prefix_cons.mpr ⟨rfl, hfits⟩)
    rw [replaceAll_cons_of_not_start hno]
    refine .text ?_ (ih hnext)
    rwa [hreplaces.names]
  | @value other text rest line hmem hstands h ih =>
    have hnext : format = (before ++ other) ++ rest := by simp [hformat]
    have hrest := ih hnext
    rcases htold _ hmem with hentry | ⟨hvalue, hno⟩ | ⟨hne, hspares⟩
    · cases hentry
      rw [replaceAll_append_self (hmarked _ hname).ne_nil]
      exact .value hreplaces.mem (hstay hstands) hrest
    · cases hvalue
      have hother : other ≠ name := by
        rintro rfl
        exact hno List.prefix_rfl
      rw [replaceAll_append_of_forall
        (not_prefix_of_itself hmarked hname htold h (mem_names hmem) hformat hstands hno)]
      exact .value (hreplaces.others _ hmem hother) (hstay hstands) hrest
    · obtain ⟨hfree, -, hbegins⟩ :=
        hspares.of_append (hmarked _ (mem_names hmem)).ne_nil hformat hstands
      have hquiet : ∀ behind, behind ≠ [] → behind <:+ text → ¬ name <+: behind ++ line := by
        intro behind hne hbehind hprefix
        rcases List.prefix_or_prefix_of_prefix hprefix (List.prefix_append behind line)
          with hshort | ⟨longer, hlonger⟩
        · exact hfree (hshort.isInfix.trans hbehind.isInfix)
        · by_cases hend : longer = []
          · rw [hend, List.append_nil] at hlonger
            exact hfree (hlonger ▸ hbehind.isInfix)
          · rw [← hlonger, List.prefix_append_right_inj] at hprefix
            exact hbegins (begins_of_append hne hend hlonger hbehind (h.goesOn hprefix))
      rw [replaceAll_append_of_forall hquiet]
      exact .value (hreplaces.others _ hmem hne) (hstay hstands) hrest

omit hmarked hname htold

/-! All variables replaced -/

/-- The table with its variables put in for themselves. -/
def unfilled (table : Table) : Table := table.map fun entry => (entry.1, entry.1)

theorem names_unfilled (table : Table) : table.unfilled.names = table.names := by
  simp [unfilled, names]

/-- A format is its own line while every variable stands for itself. -/
theorem fills_unfilled (hproper : table.IsProper mark) (format : List Char) :
    Fills table.unfilled format format := by
  induction hlength : format.length using Nat.strongRecOn generalizing format with
  | ind length ih =>
    subst hlength
    cases hfind : table.names.find? (·.isPrefixOf format) with
    | none =>
      rw [List.find?_eq_none] at hfind
      cases format with
      | nil => exact .nil
      | cons c rest =>
        refine .text ?_ (ih rest.length (by simp) rest rfl)
        intro name hname hprefix
        rw [names_unfilled] at hname
        exact hfind name hname (List.isPrefixOf_iff_prefix.mpr hprefix)
    | some name =>
      obtain ⟨hfits, before, behind, hnames, hbefore⟩ := List.find?_eq_some_iff_append.mp hfind
      have hname : name ∈ table.names := hnames ▸ List.mem_append_right _ List.mem_cons_self
      obtain ⟨rest, rfl⟩ := List.isPrefixOf_iff_prefix.mp hfits
      have hshorter : rest.length < (name ++ rest).length := by
        have hpos := List.length_pos_iff.mpr (hproper.marked name hname).ne_nil
        rw [List.length_append]
        omega
      refine .value ?_ ⟨List.prefix_append _ _, ?_⟩ (ih rest.length hshorter rest rfl)
      · obtain ⟨entry, hentry, rfl⟩ := List.mem_map.mp hname
        exact List.mem_map_of_mem hentry
      · -- No name before this one fits, and one behind it that does is a beginning of it.
        intro other hother hprefix
        rw [names_unfilled, hnames, List.mem_append, List.mem_cons] at hother
        have hordered := hproper.ordered
        rw [hnames, List.pairwise_append, List.pairwise_cons] at hordered
        rcases hother with hearly | rfl | hlate
        · have hno := hbefore other hearly
          rw [List.isPrefixOf_iff_prefix.mpr hprefix] at hno
          cases hno
        · exact Nat.le_refl _
        · rcases List.prefix_or_prefix_of_prefix hprefix (List.prefix_append name rest)
            with hshort | hlong
          · exact hshort.length_le
          · exact absurd hlong (hordered.2.1.1 other hlate)

theorem Spares.congr (hnames : filled.names = table.names) {entry : List Char × List Char}
    (h : table.Spares format name entry) : filled.Spares format name entry := by
  have hgoesOn : filled.GoesOn = table.GoesOn := by
    funext rest text
    rw [GoesOn, GoesOn, hnames]
  intro n hn hstands
  rw [StandsAt, hnames] at hstands
  rw [hgoesOn]
  exact h n hn hstands

/-- The next variable of a table is replaced while those before it are and those behind it are
not. -/
theorem Fills.replace_next {entry : List Char × List Char}
    (hproper : (done ++ entry :: todo).IsProper mark)
    (hundisturbed : (done ++ entry :: todo).Undisturbed format)
    (h : Fills (done ++ (entry.1, entry.1) :: todo.unfilled) format line) :
    Fills (done ++ entry :: todo.unfilled) format (Text.replaceAll entry.1 entry.2 line) := by
  have hnames :
      (done ++ (entry.1, entry.1) :: todo.unfilled).names = (done ++ entry :: todo).names := by
    simp [names, unfilled]
  have hordered := hproper.ordered
  rw [names, List.map_append, List.map_cons, List.pairwise_append, List.pairwise_cons] at hordered
  have hquiet := hundisturbed
  rw [Undisturbed, List.pairwise_append, List.pairwise_cons] at hquiet
  have hstart : format = [] ++ format := rfl
  refine h.replaceAll (fun other hother => hproper.marked other (hnames ▸ hother))
    (mem_names (List.mem_append_right _ List.mem_cons_self)) ?_ ?_ hstart
  · intro other hother
    rcases List.mem_append.mp hother with hdone | hother
    · have hbefore := hordered.2.2 other.1 (List.mem_map_of_mem hdone) entry.1 List.mem_cons_self
      refine Or.inr (Or.inr ⟨?_, (hquiet.2.2 other hdone entry List.mem_cons_self).congr hnames⟩)
      intro heq
      exact hbefore (heq ▸ List.prefix_rfl)
    · rcases List.mem_cons.mp hother with rfl | htodo
      · exact Or.inl rfl
      · obtain ⟨later, hlater, rfl⟩ := List.mem_map.mp htodo
        exact Or.inr (Or.inl ⟨rfl, hordered.2.1.1 later.1 (List.mem_map_of_mem hlater)⟩)
  · refine ⟨by simp [names], List.mem_append_right _ List.mem_cons_self, ?_⟩
    intro other hother hne
    rcases List.mem_append.mp hother with hdone | hother
    · exact List.mem_append_left _ hdone
    · rcases List.mem_cons.mp hother with rfl | htodo
      · exact absurd rfl hne
      · exact List.mem_append_right _ (List.mem_cons_of_mem _ htodo)

/-- The variables that are still to come are replaced one by one, in the order of the table. -/
theorem Fills.replaceEach (done : Table) (hproper : (done ++ todo).IsProper mark)
    (hundisturbed : (done ++ todo).Undisturbed format)
    (h : Fills (done ++ todo.unfilled) format line) :
    Fills (done ++ todo) format (todo.replaceEach line) := by
  induction todo generalizing done line with
  | nil => exact h
  | cons entry todo ih =>
    have hnext := h.replace_next hproper hundisturbed
    have happend : ∀ rest : Table, done ++ entry :: rest = (done ++ [entry]) ++ rest := by simp
    rw [happend] at hproper hundisturbed hnext ⊢
    exact ih _ hproper hundisturbed hnext

/-- A format makes the line in which its variables are replaced one after the other, if none of them
is disturbed. -/
theorem fills_iff (hproper : table.IsProper mark) (hundisturbed : table.Undisturbed format) :
    Fills table format line ↔ line = table.replaceEach format := by
  have hline : Fills table format (table.replaceEach format) :=
    Fills.replaceEach [] hproper hundisturbed (fills_unfilled hproper format)
  constructor
  · exact fun h => h.unique hproper hline
  · rintro rfl
    exact hline

end Table

end WebService.Text
