import WebService.Proofs.Number.Integer
import WebService.Proofs.Route.Grammar
import WebService.Proofs.Text.Percent
import WebService.Route.Pattern

/-!
Paths made of a pattern and values for its placeholders: the pattern matches them and captures those
values.
-/
namespace WebService.Route

open Text (octets percentEncode)

variable {values : String → Captured} {reserved : UInt8 → Bool} {source path : String} {p : Pattern}
  {segment : Segment} {segments : List Segment} {type : PlaceholderType} {value : Captured}

/-! Values and their texts -/

/-- The values that a type reads from their texts: texts that are not empty, integers of 64 bits,
and truth values. -/
inductive PlaceholderType.Takes : PlaceholderType → Captured → Prop where
  | text {s : String} (h : s ≠ "") : Takes .text (.text s)
  | integer {i : Int} (hlow : Number.minInt64 ≤ i) (hhigh : i ≤ Number.maxInt64) :
      Takes .integer (.integer i)
  | flag (b : Bool) : Takes .flag (.flag b)

theorem convert?_display (h : type.Takes value) : type.convert? value.display = some value := by
  cases h with
  | text => rfl
  | @integer i hlow hhigh =>
    have hread : Number.readInt64 (Number.intText i) = some i :=
      Number.readInt_intText hlow hhigh
    simp [PlaceholderType.convert?, Captured.display, hread]
  | flag b =>
    cases b with
    | false => rfl
    | true => rfl

theorem display_ne_empty (h : type.Takes value) : value.display ≠ "" := by
  cases h with
  | text hne => exact hne
  | @integer i =>
    intro hempty
    exact Number.intText_ne_nil i (by simpa [Captured.display] using hempty)
  | flag b =>
    cases b with
    | false => decide
    | true => decide

/-! Paths -/

/-- The text of a segment, given values for the placeholders. -/
def Segment.textWith (values : String → Captured) : Segment → String
  | .literal text => text
  | .placeholder name _ => (values name).display

/-- What a segment captures of its text. -/
def Segment.captures (values : String → Captured) : Segment → Vars
  | .literal _ => []
  | .placeholder name _ => [(name, values name)]

/-- Whether the text of a segment is read as what the segment is to capture. -/
def Segment.Takes (values : String → Captured) : Segment → Prop
  | .literal text => text ≠ ""
  | .placeholder name type => type.Takes (values name)

theorem textWith_ne_empty (h : segment.Takes values) : segment.textWith values ≠ "" := by
  cases segment with
  | literal text => exact h
  | placeholder name type => exact display_ne_empty h

theorem matchSegment?_textWith (h : segment.Takes values) :
    Pattern.matchSegment? (segment.textWith values) segment = some (segment.captures values) := by
  cases segment with
  | literal text => simp [Pattern.matchSegment?, Segment.textWith, Segment.captures]
  | placeholder name type =>
    have hconvert := convert?_display h
    simp [Pattern.matchSegment?, Segment.textWith, Segment.captures, hconvert]

/-- What is read from the octets of a part is the text of the segment. -/
theorem percentDecodeText?_of_octets {node : List Char} (hpercent : reserved 0x25 = true)
    (h : node.flatMap String.utf8EncodeChar =
      percentEncode reserved (octets (segment.textWith values))) :
    Text.percentDecodeText? (String.ofList node) = some (segment.textWith values) := by
  rw [Text.percentDecodeText?, Text.octets_ofList, h, Text.percentDecode_percentEncode hpercent,
    Text.ofOctets?_octets]

theorem matchNodes?_of_octets {nodes : List (List Char)} (hpercent : reserved 0x25 = true)
    (htakes : ∀ segment ∈ segments, segment.Takes values)
    (h : nodes.map (·.flatMap String.utf8EncodeChar) =
      segments.map fun segment => percentEncode reserved (octets (segment.textWith values))) :
    Pattern.matchNodes? segments nodes = some (segments.flatMap (Segment.captures values)) := by
  induction segments generalizing nodes with
  | nil =>
    rw [List.map_nil, List.map_eq_nil_iff] at h
    rw [h]
    rfl
  | cons segment segments ih =>
    obtain ⟨node, others, rfl, hnode, hothers⟩ := List.map_eq_cons_iff.mp h
    have htext := percentDecodeText?_of_octets hpercent hnode
    have hcaptured := matchSegment?_textWith (htakes segment List.mem_cons_self)
    have hrest := ih (fun s hs => htakes s (List.mem_cons_of_mem _ hs)) hothers
    simp [Pattern.matchNodes?, htext, hcaptured, hrest]

namespace Pattern

/-- The octets of the path that values make of a pattern: behind a slash each, the texts of the
segments with the reserved octets encoded, and one more slash if the pattern ends in one. -/
def pathOctets (p : Pattern) (reserved : UInt8 → Bool) (values : String → Captured) : List UInt8 :=
  (p.segments.flatMap fun segment =>
    0x2f :: percentEncode reserved (octets (segment.textWith values))) ++
    if p.source.toList.getLast? = some '/' then [0x2f] else []

/-- The path that values make of a pattern, if its octets are a text. -/
def path? (p : Pattern) (reserved : UInt8 → Bool) (values : String → Captured) : Option String :=
  Text.ofOctets? (p.pathOctets reserved values)

/-- The parts of a path, as octets, are the parts of its octets. -/
theorem map_nodes (cs : List Char) : (nodes cs).map (·.flatMap String.utf8EncodeChar) =
    (Text.splitOn (· = 0x2f) (cs.flatMap String.utf8EncodeChar)).filter fun part =>
      !part.isEmpty := by
  have hslash : '/'.toNat < 0x80 := by decide
  have hsplit : Text.splitOn (· = 0x2f) (cs.flatMap String.utf8EncodeChar) =
      (Text.splitOn (· = '/') cs).map (·.flatMap String.utf8EncodeChar) :=
    Text.splitOn_octets hslash cs
  have hempty : ∀ part : List Char,
      (part.flatMap String.utf8EncodeChar).isEmpty = part.isEmpty := by
    intro part
    cases part with
    | nil => rfl
    | cons c cs => simp [String.utf8EncodeChar_ne_nil]
  rw [hsplit, List.filter_map, nodes]
  congr 2
  funext part
  simp [hempty]

theorem map_nodes_of_octets (hslash : reserved 0x2f = true)
    (htakes : ∀ segment ∈ p.segments, segment.Takes values)
    (hpath : octets path = p.pathOctets reserved values) :
    (nodes path.toList).map (·.flatMap String.utf8EncodeChar) =
      p.segments.map fun segment => percentEncode reserved (octets (segment.textWith values)) := by
  have hparts : ∀ part ∈ p.segments.map
      (fun segment => percentEncode reserved (octets (segment.textWith values))),
      part ≠ [] ∧ ∀ b ∈ part, decide (b = 0x2f) = false := by
    intro part hpart
    obtain ⟨segment, hsegment, rfl⟩ := List.mem_map.mp hpart
    have hne := Text.isEmpty_octets (textWith_ne_empty (htakes segment hsegment))
    refine ⟨Text.percentEncode_ne_nil (List.isEmpty_eq_false_iff.mp hne), ?_⟩
    intro b hb
    apply decide_eq_false
    rintro rfl
    exact Text.slash_not_mem_percentEncode hslash _ hb
  have htail : (if p.source.toList.getLast? = some '/' then [0x2f] else []) = ([] : List UInt8) ∨
      (if p.source.toList.getLast? = some '/' then [0x2f] else []) = [(0x2f : UInt8)] := by
    split
    · exact Or.inr rfl
    · exact Or.inl rfl
  have hsplit := Text.filter_splitOn_flatMap (p := fun b => decide (b = 0x2f)) rfl hparts htail
  rw [map_nodes, ← Text.octets_eq, hpath, pathOctets]
  rwa [List.flatMap_map] at hsplit

/-! Slashes at the end -/

/-- A path that has parts is more than a slash. -/
theorem endsInSlash_iff {cs : List Char} (h : nodes cs ≠ []) :
    endsInSlash cs = true ↔ cs.getLast? = some '/' := by
  rw [endsInSlash, Bool.and_eq_true, decide_eq_true_eq, decide_eq_true_eq]
  refine ⟨And.right, fun hlast => ⟨?_, hlast⟩⟩
  match cs with
  | [] => cases hlast
  | [c] =>
    cases hlast
    exact absurd (by rfl) h
  | _ :: _ :: _ => simp

theorem getLast?_append {α : Type} {cs ds : List α} (h : ds ≠ []) :
    (cs ++ ds).getLast? = ds.getLast? := by
  rw [List.getLast?_append, List.getLast?_eq_some_getLast h]
  rfl

theorem getLast?_octets (path : String) :
    (octets path).getLast? = some 0x2f ↔ path.toList.getLast? = some '/' := by
  have hslash : '/'.toNat < 0x80 := by decide
  rw [Text.octets_eq]
  rcases List.eq_nil_or_concat path.toList with hnil | ⟨cs, c, hcs⟩
  · simp [hnil]
  · have hne : String.utf8EncodeChar c ≠ [] := String.utf8EncodeChar_ne_nil
    rw [hcs, List.concat_eq_append, List.flatMap_append, List.flatMap_singleton,
      getLast?_append hne, List.getLast?_concat, Option.some.injEq]
    constructor
    · intro h
      exact (Text.mem_utf8EncodeChar_iff hslash).mp (List.mem_of_getLast? h)
    · rintro rfl
      rfl

/-- Segments make a path that ends in a slash just where the pattern does. -/
theorem getLast?_pathOctets (hslash : reserved 0x2f = true)
    (htakes : ∀ segment ∈ p.segments, segment.Takes values) (hne : p.segments ≠ []) :
    (p.pathOctets reserved values).getLast? = some 0x2f ↔
      p.source.toList.getLast? = some '/' := by
  unfold pathOctets
  split
  · rename_i hlast
    simp [hlast]
  · rename_i hlast
    rcases List.eq_nil_or_concat p.segments with hnil | ⟨others, segment, hsegments⟩
    · exact absurd hnil hne
    · have hmem : segment ∈ p.segments := by simp [hsegments]
      have htext := Text.isEmpty_octets (textWith_ne_empty (htakes segment hmem))
      have hencoded : percentEncode reserved (octets (segment.textWith values)) ≠ [] :=
        Text.percentEncode_ne_nil (List.isEmpty_eq_false_iff.mp htext)
      rw [hsegments, List.concat_eq_append, List.flatMap_append, List.flatMap_singleton,
        List.append_nil,
        getLast?_append (List.cons_ne_nil _ _), List.getLast?_cons_of_ne_nil hencoded]
      simp only [hlast, iff_false]
      exact fun h => Text.slash_not_mem_percentEncode hslash _ (List.mem_of_getLast? h)

/-! Patterns that are read -/

theorem literal_ne_empty {text : String} (h : Describes source segments)
    (htext : .literal text ∈ segments) : text ≠ "" := by
  obtain ⟨node, hnode, hspelled⟩ := exists_spelled_of_mem h.spelled htext
  have hne : node ≠ [] := by simpa using (List.mem_filter.mp hnode).2
  cases hspelled with
  | literal =>
    rintro rfl
    exact hne rfl

/-- In a pattern, values that fit the placeholders fit all segments. -/
theorem takes_of_parse (h : parse source = .ok p)
    (hvalues : ∀ name type, .placeholder name type ∈ p.segments → type.Takes (values name)) :
    ∀ segment ∈ p.segments, segment.Takes values := by
  intro segment hsegment
  cases segment with
  | literal text => exact literal_ne_empty (parse_eq_ok_iff.mp h).1 hsegment
  | placeholder name type => exact hvalues name type hsegment

theorem trailingSlash_of_parse (h : parse source = .ok p) (hne : p.segments ≠ []) :
    p.trailingSlash = true ↔ source.toList.getLast? = some '/' := by
  obtain ⟨hdescribes, -, htrailing⟩ := parse_eq_ok_iff.mp h
  rw [htrailing]
  refine endsInSlash_iff fun hnil => hne ?_
  have hspelled := hdescribes.spelled
  rwa [hnil, List.forall₂_nil_right_iff] at hspelled

/-! Matching -/

theorem match?_of_octets (h : parse source = .ok p) (hne : p.segments ≠ [])
    (htakes : ∀ segment ∈ p.segments, segment.Takes values) (hpercent : reserved 0x25 = true)
    (hslash : reserved 0x2f = true) (hpath : octets path = p.pathOctets reserved values)
    (strict : Bool) :
    p.match? path strict = some (p.segments.flatMap (Segment.captures values)) := by
  have hparts := map_nodes_of_octets hslash htakes hpath
  have hnodes : nodes path.toList ≠ [] := by
    intro hnil
    rw [hnil, List.map_nil] at hparts
    exact hne (List.map_eq_nil_iff.mp hparts.symm)
  have hends : endsInSlash path.toList = p.trailingSlash := by
    rw [Bool.eq_iff_iff, endsInSlash_iff hnodes, trailingSlash_of_parse h hne,
      ← getLast?_octets, hpath, getLast?_pathOctets hslash htakes hne, (parse_eq_ok_iff.mp h).2.1]
  simp [match?, hends, matchNodes?_of_octets hpercent htakes hparts]

theorem exists_octets_eq_pathOctets (h : ∀ b, 0x80 ≤ b → reserved b = reserved 0x80)
    (p : Pattern) (values : String → Captured) :
    ∃ path, octets path = p.pathOctets reserved values := by
  have hsegments : ∀ segments : List Segment, ∃ t, octets t = segments.flatMap fun segment =>
      0x2f :: percentEncode reserved (octets (segment.textWith values)) := by
    intro segments
    induction segments with
    | nil => exact ⟨"", rfl⟩
    | cons segment segments ih =>
      obtain ⟨first, hfirst⟩ :=
        Text.exists_octets_eq_percentEncode h (segment.textWith values)
      obtain ⟨others, hothers⟩ := ih
      refine ⟨"/" ++ first ++ others, ?_⟩
      rw [Text.octets_append, Text.octets_append, hfirst, hothers, List.flatMap_cons]
      rfl
  obtain ⟨t, ht⟩ := hsegments p.segments
  unfold pathOctets
  split
  · refine ⟨t ++ "/", ?_⟩
    rw [Text.octets_append, ht]
    rfl
  · exact ⟨t, by rw [ht, List.append_nil]⟩

/-- A path made of values is matched, however slashes at the end are treated, and captures just
these values under their names. The path can be made wherever octets above 0x7f are treated
alike. -/
theorem match_of_path (source : String) (p : Pattern) (h : parse source = .ok p)
    (hne : p.segments ≠ []) (values : String → Captured)
    (hvalues : ∀ name type, .placeholder name type ∈ p.segments → type.Takes (values name))
    (reserved : UInt8 → Bool) (hpercent : reserved 0x25 = true) (hslash : reserved 0x2f = true) :
    (∀ path, p.path? reserved values = some path → ∀ strict,
      p.match? path strict = some (p.segments.flatMap (Segment.captures values))) ∧
    ((∀ b, 0x80 ≤ b → reserved b = reserved 0x80) →
      ∃ path, p.path? reserved values = some path) := by
  constructor
  · intro path hpath strict
    exact match?_of_octets h hne (takes_of_parse h hvalues) hpercent hslash
      (Text.octets_of_ofOctets? hpath) strict
  · intro halike
    obtain ⟨path, hpath⟩ := exists_octets_eq_pathOctets halike p values
    exact ⟨path, by rw [path?, ← hpath, Text.ofOctets?_octets]⟩

/-- A literal with a percent sign, a text with a slash, an integer below zero, a truth value. -/
theorem match_of_path_of_mixed :
    ∃ p, parse "/a%41/<name>/<int:size>/<bool:on>/" = .ok p ∧ p.segments ≠ [] ∧
      ∀ strict, p.match? "/a%2541/x%2F%2541ü/-7/true/" strict =
        some [("name", .text "x/%41ü"), ("size", .integer (-7)), ("on", .flag true)] := by
  let values : String → Captured := fun name =>
    if name = "name" then .text "x/%41ü" else if name = "size" then .integer (-7) else .flag true
  let reserved : UInt8 → Bool := fun b => b = 0x25 || b = 0x2f
  let p : Pattern := ⟨"/a%41/<name>/<int:size>/<bool:on>/",
    [.literal "a%41", .placeholder "name" .text, .placeholder "size" .integer,
      .placeholder "on" .flag], true⟩
  have hparse : parse "/a%41/<name>/<int:size>/<bool:on>/" = .ok p := by rfl
  have hvalues : ∀ name type, .placeholder name type ∈ p.segments → type.Takes (values name) := by
    intro name type h
    simp only [p, List.mem_cons, List.not_mem_nil, or_false, reduceCtorEq, false_or,
      Segment.placeholder.injEq] at h
    rcases h with ⟨rfl, rfl⟩ | ⟨rfl, rfl⟩ | ⟨rfl, rfl⟩
    · exact .text (by decide)
    · exact .integer (by decide) (by decide)
    · exact .flag true
  have hpath : p.path? reserved values = some "/a%2541/x%2F%2541ü/-7/true/" := by decide +kernel
  have hmatch := match_of_path _ p hparse (List.cons_ne_nil _ _) values hvalues reserved rfl rfl
  exact ⟨p, hparse, List.cons_ne_nil _ _, hmatch.1 _ hpath⟩

end Pattern

end WebService.Route
