import Mathlib.Data.List.Forall2
import WebService.Proofs.Chain
import WebService.Proofs.Text.Split
import WebService.Route.Pattern

/-!
The grammar of patterns, which are read exactly if they follow it. The name of a placeholder may
hold angle brackets, so that two placeholders with text between them are read as one.
-/
namespace WebService.Route

variable {source name : String} {known : List String} {segment : Segment}
  {segments : List Segment} {type : PlaceholderType} {node inner : List Char} {p : Pattern}

def PlaceholderType.word : PlaceholderType → String
  | text => "str"
  | integer => "int"
  | real => "float"
  | flag => "bool"

theorem PlaceholderType.ofName?_eq_some_iff {s : String} :
    PlaceholderType.ofName? s = some type ↔ s = type.word := by
  constructor
  · intro h
    unfold ofName? at h
    split at h <;> cases h <;> rfl
  · rintro rfl
    cases type <;> rfl

theorem PlaceholderType.colon_not_mem (type : PlaceholderType) : ':' ∉ type.word.toList := by
  cases type <;> decide

/-! Segments and their texts -/

def IsBracket (c : Char) : Prop := c = '<' ∨ c = '>'

instance (c : Char) : Decidable (IsBracket c) := inferInstanceAs (Decidable (_ ∨ _))

/-- The texts of a segment: a literal without angle brackets, or a name between them, behind a type
or without one. -/
inductive Segment.Spelled : Segment → List Char → Prop where
  | literal {text : String} (hplain : ∀ c ∈ text.toList, ¬ IsBracket c) :
      Spelled (.literal text) text.toList
  | untyped {name : String} (hne : name ≠ "") (hcolon : ':' ∉ name.toList) :
      Spelled (.placeholder name .text) ('<' :: (name.toList ++ ['>']))
  | typed {name : String} {type : PlaceholderType} (hne : name ≠ "") :
      Spelled (.placeholder name type) ('<' :: ((type.word.toList ++ ':' :: name.toList) ++ ['>']))

/-- The names of the placeholders. -/
def names (segments : List Segment) : List String := segments.filterMap Segment.name?

namespace Pattern

/-- A placeholder whose name is there and new. -/
def checked (source : String) (known : List String) (name : String) (type : PlaceholderType) :
    Except Error Segment :=
  if name.isEmpty then .error (.invalidPattern source .noName)
  else if known.contains name then .error (.invalidPattern source .repeatedName)
  else .ok (.placeholder name type)

theorem checked_eq_ok_iff : checked source known name type = .ok segment ↔
    segment = .placeholder name type ∧ name ≠ "" ∧ name ∉ known := by
  unfold checked
  split
  · rename_i hempty
    have hempty : name = "" := by simpa using hempty
    simp [hempty]
  · rename_i hne
    have hne : name ≠ "" := by simpa using hne
    split
    · rename_i hold
      have hold : name ∈ known := by simpa using hold
      simp [hold]
    · rename_i hnew
      have hnew : name ∉ known := by simpa using hnew
      simp [hne, hnew, eq_comm]

theorem readPlaceholder_of_none (h : Text.splitFirst? (· = ':') inner = none) :
    readPlaceholder source known inner = checked source known (String.ofList inner) .text := by
  simp only [readPlaceholder, h]
  rfl

theorem readPlaceholder_of_some {word name : List Char}
    (h : Text.splitFirst? (· = ':') inner = some (word, name)) :
    readPlaceholder source known inner =
      match PlaceholderType.ofName? (String.ofList word) with
      | some type => checked source known (String.ofList name) type
      | none => .error (.invalidPlaceholder (String.ofList word)) := by
  simp only [readPlaceholder, h]
  cases PlaceholderType.ofName? (String.ofList word) with
  | none => rfl
  | some type => rfl

theorem readPlaceholder_eq_ok_iff : readPlaceholder source known inner = .ok segment ↔
    ∃ name type, segment = .placeholder name type ∧ name ≠ "" ∧ name ∉ known ∧
      (inner = type.word.toList ++ ':' :: name.toList ∨
        (type = .text ∧ inner = name.toList ∧ ':' ∉ inner)) := by
  constructor
  · intro h
    -- The first colon ends the type; a name without a type therefore has none.
    cases hsplit : Text.splitFirst? (· = ':') inner with
    | none =>
      rw [readPlaceholder_of_none hsplit, checked_eq_ok_iff] at h
      obtain ⟨hsegment, hne, hnew⟩ := h
      have hcolon : ':' ∉ inner := by
        intro hmem
        simpa using Text.splitFirst?_eq_none_iff.mp hsplit ':' hmem
      exact ⟨_, _, hsegment, hne, hnew, Or.inr ⟨rfl, by rw [String.toList_ofList], hcolon⟩⟩
    | some parts =>
      obtain ⟨word, rest⟩ := parts
      rw [readPlaceholder_of_some hsplit] at h
      obtain ⟨c, hc, rfl, -⟩ := Text.splitFirst?_eq_some_iff.mp hsplit
      obtain rfl : c = ':' := by simpa using hc
      split at h
      · rename_i type htype
        rw [PlaceholderType.ofName?_eq_some_iff] at htype
        obtain ⟨hsegment, hne, hnew⟩ := checked_eq_ok_iff.mp h
        refine ⟨_, _, hsegment, hne, hnew, Or.inl ?_⟩
        rw [← htype, String.toList_ofList, String.toList_ofList]
      · cases h
  · rintro ⟨name, type, rfl, hne, hnew, rfl | ⟨rfl, rfl, hcolon⟩⟩
    · have hsplit : Text.splitFirst? (· = ':') (type.word.toList ++ ':' :: name.toList) =
          some (type.word.toList, name.toList) := by
        refine Text.splitFirst?_eq_some_iff.mpr ⟨':', rfl, rfl, ?_⟩
        intro d hd
        apply decide_eq_false
        rintro rfl
        exact type.colon_not_mem hd
      rw [readPlaceholder_of_some hsplit, String.ofList_toList, String.ofList_toList,
        PlaceholderType.ofName?_eq_some_iff.mpr rfl]
      exact checked_eq_ok_iff.mpr ⟨rfl, hne, hnew⟩
    · have hsplit : Text.splitFirst? (· = ':') name.toList = none := by
        refine Text.splitFirst?_eq_none_iff.mpr fun c hc => decide_eq_false ?_
        rintro rfl
        exact hcolon hc
      rw [readPlaceholder_of_none hsplit, String.ofList_toList]
      exact checked_eq_ok_iff.mpr ⟨rfl, hne, hnew⟩

theorem readSegment_brackets : readSegment source known ('<' :: (inner ++ ['>'])) =
    readPlaceholder source known inner := by
  simp [readSegment]

theorem readSegment_eq_ok_iff : readSegment source known node = .ok segment ↔
    segment.Spelled node ∧ ∀ name, segment.name? = some name → name ∉ known := by
  constructor
  · intro h
    unfold readSegment at h
    split at h
    · rename_i inner
      split at h
      · rename_i hlast
        obtain ⟨name, type, rfl, hne, hnew, htext⟩ := readPlaceholder_eq_ok_iff.mp h
        have hknown : ∀ other, Segment.name? (.placeholder name type) = some other →
            other ∉ known := by
          intro other hother
          cases hother
          exact hnew
        have hinner : inner = inner.dropLast ++ ['>'] :=
          (List.dropLast_append_getLast? '>' hlast).symm
        rw [hinner]
        rcases htext with htext | ⟨rfl, htext, hcolon⟩
        · rw [htext]
          exact ⟨.typed hne, hknown⟩
        · rw [htext] at hcolon ⊢
          exact ⟨.untyped hne hcolon, hknown⟩
      · cases h
    · split at h
      · cases h
      · rename_i hplain
        cases h
        have hspelled : (Segment.literal (String.ofList node)).Spelled
            (String.ofList node).toList := by
          refine .literal fun c hc hbracket => hplain ?_
          rw [String.toList_ofList] at hc
          exact List.any_eq_true.mpr ⟨c, hc, by simpa [IsBracket] using hbracket⟩
        rw [String.toList_ofList] at hspelled
        refine ⟨hspelled, ?_⟩
        intro name hname
        cases hname
  · rintro ⟨hspelled, hnew⟩
    cases hspelled with
    | @literal text hplain =>
      unfold readSegment
      split
      · rename_i inner htext
        have hmem : '<' ∈ text.toList := by simp [htext]
        exact absurd (Or.inl rfl) (hplain '<' hmem)
      · split
        · rename_i hany
          obtain ⟨c, hc, hbracket⟩ := List.any_eq_true.mp hany
          exact absurd (by simpa [IsBracket] using hbracket) (hplain c hc)
        · rw [String.ofList_toList]
    | untyped hne hcolon =>
      rw [readSegment_brackets]
      exact readPlaceholder_eq_ok_iff.mpr
        ⟨_, _, rfl, hne, hnew _ rfl, Or.inr ⟨rfl, rfl, hcolon⟩⟩
    | typed hne =>
      rw [readSegment_brackets]
      exact readPlaceholder_eq_ok_iff.mpr ⟨_, _, rfl, hne, hnew _ rfl, Or.inl rfl⟩

/-! Whole patterns -/

/-- A segment and those behind it have new names if its own is new and theirs differ from it as
well. -/
theorem names_cons_new :
    ((names (segment :: segments)).Nodup ∧ ∀ name ∈ names (segment :: segments), name ∉ known) ↔
      (∀ name, segment.name? = some name → name ∉ known) ∧ (names segments).Nodup ∧
        ∀ name ∈ names segments, name ∉ known ++ segment.name?.toList := by
  cases hname : segment.name? with
  | none => simp [names, hname]
  | some name =>
    have hcons : names (segment :: segments) = name :: names segments := by simp [names, hname]
    simp only [hcons, List.nodup_cons, List.forall_mem_cons, Option.some.injEq, forall_eq',
      Option.toList_some, List.mem_append, List.mem_singleton, not_or]
    constructor
    · rintro ⟨⟨hfresh, hnodup⟩, hnew, hothers⟩
      refine ⟨hnew, hnodup, fun other hother => ⟨hothers other hother, ?_⟩⟩
      rintro rfl
      exact hfresh hother
    · rintro ⟨hnew, hnodup, hothers⟩
      exact ⟨⟨fun hmem => (hothers name hmem).2 rfl, hnodup⟩, hnew,
        fun other hother => (hothers other hother).1⟩

theorem readSegments_eq_ok_iff {nodes : List (List Char)} :
    readSegments source known nodes = .ok segments ↔
      List.Forall₂ Segment.Spelled segments nodes ∧ (names segments).Nodup ∧
        ∀ name ∈ names segments, name ∉ known := by
  induction nodes generalizing known segments with
  | nil =>
    rw [List.forall₂_nil_right_iff]
    constructor
    · intro h
      cases h
      exact ⟨rfl, List.nodup_nil, List.forall_mem_nil _⟩
    · rintro ⟨rfl, -⟩
      rfl
  | cons node rest ih =>
    rw [List.forall₂_cons_right_iff, readSegments]
    simp only [bind_eq_ok_iff, pure_eq_ok_iff, readSegment_eq_ok_iff, ih]
    constructor
    · rintro ⟨segment, ⟨hspelled, hnew⟩, others, ⟨hothers, hnames⟩, rfl⟩
      exact ⟨⟨segment, others, hspelled, hothers, rfl⟩, names_cons_new.mpr ⟨hnew, hnames⟩⟩
    · rintro ⟨⟨segment, others, hspelled, hothers, rfl⟩, hnames⟩
      obtain ⟨hnew, hnames⟩ := names_cons_new.mp hnames
      exact ⟨segment, ⟨hspelled, hnew⟩, others, ⟨hothers, hnames⟩, rfl⟩

theorem exists_spelled_of_mem {nodes : List (List Char)}
    (hspelled : List.Forall₂ Segment.Spelled segments nodes) (h : segment ∈ segments) :
    ∃ node ∈ nodes, segment.Spelled node := by
  induction hspelled with
  | nil => cases h
  | cons hfirst _ ih =>
    rcases List.mem_cons.mp h with rfl | h
    · exact ⟨_, List.mem_cons_self, hfirst⟩
    · obtain ⟨node, hnode, htext⟩ := ih h
      exact ⟨node, List.mem_cons_of_mem _ hnode, htext⟩

/-- Whether a text is a pattern of some segments: behind a slash the text of each, and no name
twice. -/
structure Describes (source : String) (segments : List Segment) : Prop where
  rooted : source.toList.head? = some '/'
  spelled : List.Forall₂ Segment.Spelled segments (nodes source.toList)
  distinct : (names segments).Nodup

theorem parse_eq_ok_iff : parse source = .ok p ↔ Describes source p.segments ∧
    p.source = source ∧ p.trailingSlash = endsInSlash source.toList := by
  simp only [parse]
  split
  · rename_i hrooted
    simp only [bind_eq_ok_iff, pure_eq_ok_iff, readSegments_eq_ok_iff]
    constructor
    · rintro ⟨segments, ⟨hspelled, hdistinct, -⟩, rfl⟩
      exact ⟨⟨hrooted, hspelled, hdistinct⟩, rfl, rfl⟩
    · rintro ⟨⟨-, hspelled, hdistinct⟩, rfl, htrailing⟩
      refine ⟨p.segments, ⟨hspelled, hdistinct, fun _ _ => List.not_mem_nil⟩, ?_⟩
      rw [← htrailing]
  · rename_i hrooted
    constructor
    · intro h
      cases h
    · rintro ⟨⟨h, -, -⟩, -⟩
      exact absurd h hrooted

theorem exists_parse_eq_ok_iff {P : List Segment → Prop} :
    (∃ p, parse source = .ok p ∧ P p.segments) ↔
      ∃ segments, Describes source segments ∧ P segments := by
  constructor
  · rintro ⟨p, hp, h⟩
    exact ⟨p.segments, (parse_eq_ok_iff.mp hp).1, h⟩
  · rintro ⟨segments, hdescribes, h⟩
    exact ⟨⟨source, segments, endsInSlash source.toList⟩,
      parse_eq_ok_iff.mpr ⟨hdescribes, rfl, rfl⟩, h⟩

/-! Angle brackets in names -/

/-- Whether no name of a placeholder holds an angle bracket. -/
def HasPlainNames (segments : List Segment) : Prop :=
  ∀ name ∈ names segments, ∀ c ∈ name.toList, ¬ IsBracket c

/-- A name stands between the first and the last character of its segment. -/
theorem mem_of_mem_name {c : Char} (hspelled : segment.Spelled node)
    (hname : segment.name? = some name) (hc : c ∈ name.toList) : c ∈ node.tail.dropLast := by
  cases hspelled with
  | literal hplain => cases hname
  | untyped hne hcolon =>
    cases hname
    rwa [List.tail_cons, List.dropLast_concat]
  | typed hne =>
    cases hname
    rw [List.tail_cons, List.dropLast_concat]
    exact List.mem_append_right _ (List.mem_cons_of_mem _ hc)

theorem hasPlainNames_of_spelled {nodes : List (List Char)}
    (hspelled : List.Forall₂ Segment.Spelled segments nodes)
    (hplain : ∀ node ∈ nodes, ∀ c ∈ node.tail.dropLast, ¬ IsBracket c) :
    HasPlainNames segments := by
  intro name hmem c hc
  obtain ⟨segment, hsegment, hname⟩ := List.mem_filterMap.mp hmem
  obtain ⟨node, hnode, htext⟩ := exists_spelled_of_mem hspelled hsegment
  exact hplain node hnode c (mem_of_mem_name htext hname hc)

/-- Whether angle brackets stand at the ends of segments only. -/
def HasOuterBrackets (source : String) : Prop :=
  ∀ node ∈ nodes source.toList, ∀ c ∈ node.tail.dropLast, ¬ IsBracket c

instance (source : String) : Decidable (HasOuterBrackets source) :=
  decidable_of_iff
    ((nodes source.toList).all fun node => node.tail.dropLast.all fun c => !decide (IsBracket c))
    (by simp [HasOuterBrackets])

/-- A text is read as a pattern exactly if it follows the grammar, in which a name may hold angle
brackets. The patterns without such names are those of the grammar that has none, and this is the
grammar of all texts with angle brackets at the ends of segments only. -/
theorem parse_iff_grammar (source : String) :
    (∀ p, parse source = .ok p ↔ Describes source p.segments ∧ p.source = source ∧
      p.trailingSlash = endsInSlash source.toList) ∧
    ((∃ p, parse source = .ok p) ↔ ∃ segments, Describes source segments) ∧
    ((∃ p, parse source = .ok p ∧ HasPlainNames p.segments) ↔
      ∃ segments, Describes source segments ∧ HasPlainNames segments) ∧
    (HasOuterBrackets source → ((∃ p, parse source = .ok p) ↔
      ∃ segments, Describes source segments ∧ HasPlainNames segments)) := by
  refine ⟨fun p => parse_eq_ok_iff, ?_, exists_parse_eq_ok_iff, ?_⟩
  · have hparse : (∃ p, parse source = .ok p ∧ True) ↔
        ∃ segments, Describes source segments ∧ True := exists_parse_eq_ok_iff (P := fun _ => True)
    simpa only [and_true] using hparse
  · intro hplain
    rw [← exists_parse_eq_ok_iff]
    constructor
    · rintro ⟨p, hp⟩
      exact ⟨p, hp, hasPlainNames_of_spelled (parse_eq_ok_iff.mp hp).1.spelled hplain⟩
    · rintro ⟨p, hp, -⟩
      exact ⟨p, hp⟩

/-- A name behind a type may hold a colon; a name may not stand twice, whatever the types. -/
theorem parse_iff_grammar_of_colon :
    HasOuterBrackets "/a/<int:b:c>/<d>/" ∧ HasOuterBrackets "/<a>/<int:a>" ∧
      (∃ segments, Describes "/a/<int:b:c>/<d>/" segments ∧ HasPlainNames segments) ∧
      ¬ ∃ segments, Describes "/<a>/<int:a>" segments ∧ HasPlainNames segments := by
  have hcolon : HasOuterBrackets "/a/<int:b:c>/<d>/" := by decide
  have htwice : HasOuterBrackets "/<a>/<int:a>" := by decide
  obtain ⟨-, -, -, haccepted⟩ := parse_iff_grammar "/a/<int:b:c>/<d>/"
  obtain ⟨-, -, -, hrefused⟩ := parse_iff_grammar "/<a>/<int:a>"
  refine ⟨hcolon, htwice, (haccepted hcolon).mp ⟨_, rfl⟩, fun h => ?_⟩
  obtain ⟨p, hp⟩ := (hrefused htwice).mpr h
  have herror : parse "/<a>/<int:a>" = .error (.invalidPattern "/<a>/<int:a>" .repeatedName) := rfl
  cases herror.symm.trans hp

/-- Two placeholders in one segment are read as one. -/
theorem two_placeholders_are_read_as_one :
    parse "/<a>-<b>" = .ok ⟨"/<a>-<b>", [.placeholder "a>-<b" .text], false⟩ ∧
      ¬ ∃ segments, Describes "/<a>-<b>" segments ∧ HasPlainNames segments := by
  have hparse : parse "/<a>-<b>" = .ok ⟨"/<a>-<b>", [.placeholder "a>-<b" .text], false⟩ := rfl
  refine ⟨hparse, fun h => ?_⟩
  obtain ⟨p, hp, hplain⟩ := exists_parse_eq_ok_iff.mpr h
  cases hparse.symm.trans hp
  exact hplain "a>-<b" List.mem_cons_self '>' (by decide) (Or.inr rfl)

end Pattern

end WebService.Route
