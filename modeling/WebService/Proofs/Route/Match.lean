import WebService.Proofs.Route.Grammar

/-!
What a match says of a path: the path has a part for each segment of the pattern, and the parts,
decoded one by one, are the literals and the texts of the values that are captured.
-/
namespace WebService.Route

def Captured.type : Captured → PlaceholderType
  | .text _ => .text
  | .integer _ => .integer
  | .real _ => .real
  | .flag _ => .flag

variable {source path text name : String} {p : Pattern} {segment : Segment}
  {segments : List Segment} {type : PlaceholderType} {value : Captured} {vars more : Vars}
  {node : List Char} {parts : List (List Char)} {i : Nat}

theorem type_of_convert? (h : type.convert? text = some value) : value.type = type := by
  cases type with
  | text =>
    cases h
    rfl
  | integer =>
    obtain ⟨i, -, rfl⟩ := Option.map_eq_some_iff.mp h
    rfl
  | real =>
    obtain ⟨x, -, rfl⟩ := Option.map_eq_some_iff.mp h
    rfl
  | flag =>
    obtain ⟨b, -, rfl⟩ := Option.map_eq_some_iff.mp h
    rfl

/-! Paths and their parts -/

/-- Whether `parts` are what stands between the slashes of a path, empty pieces left out. A slash
that is written as `%2F` ends no piece. -/
def CutInto (path : String) (parts : List (List Char)) : Prop :=
  ∃ pieces, Text.joinWith ['/'] pieces = path.toList ∧ (∀ piece ∈ pieces, '/' ∉ piece) ∧
    parts = pieces.filter fun piece => !piece.isEmpty

theorem cutInto_iff : CutInto path parts ↔ parts = nodes path.toList := by
  constructor
  · rintro ⟨pieces, hjoin, hfree, rfl⟩
    rw [nodes]
    by_cases hne : pieces = []
    · rw [← hjoin, hne]
      rfl
    · rw [Text.isCut_iff.mp ⟨hjoin.symm, hne, hfree⟩]
  · rintro rfl
    obtain ⟨hjoin, -, hfree⟩ := Text.isCut_iff.mpr (rfl : _ = Text.splitOn (· = '/') path.toList)
    exact ⟨_, hjoin.symm, hfree, rfl⟩

/-- Whether a text has a slash at its end, behind something else. -/
def TrailsSlash (text : String) : Prop := ∃ front, front ≠ "" ∧ text = front ++ "/"

theorem trailsSlash_iff : TrailsSlash text ↔ endsInSlash text.toList = true := by
  rw [endsInSlash, Bool.and_eq_true, decide_eq_true_eq, decide_eq_true_eq]
  constructor
  · rintro ⟨front, hne, rfl⟩
    have hfront : 0 < front.toList.length := List.length_pos_iff.mpr (by simpa using hne)
    have hslash : "/".toList = ['/'] := rfl
    rw [String.toList_append, hslash, List.getLast?_concat, List.length_append]
    exact ⟨Nat.lt_add_of_pos_left hfront, rfl⟩
  · rintro ⟨hlength, hlast⟩
    have htext : text.toList = text.toList.dropLast ++ ['/'] :=
      (List.dropLast_append_getLast? '/' hlast).symm
    refine ⟨String.ofList text.toList.dropLast, ?_, ?_⟩
    · intro hempty
      have hfront : text.toList.dropLast = [] := by simpa using congrArg String.toList hempty
      rw [htext, hfront] at hlength
      exact absurd hlength (by decide)
    · apply String.toList_injective
      rw [String.toList_append, String.toList_ofList]
      exact htext

/-! Captures -/

/-- The names and types that the placeholders declare. -/
def declared (segments : List Segment) : List (String × PlaceholderType) :=
  segments.filterMap fun segment =>
    match segment with
    | .literal _ => none
    | .placeholder name type => some (name, type)

/-- What segments capture of parts, one by one: a literal is its part decoded and captures nothing,
and a placeholder captures the value that the decoded part stands for. -/
inductive Captures : List Segment → List (List Char) → Vars → Prop where
  | nil : Captures [] [] []
  | literal {text : String} {segments : List Segment} {node : List Char} {parts : List (List Char)}
    {vars : Vars} (hnode : Text.percentDecodeText? (String.ofList node) = some text)
    (hrest : Captures segments parts vars) :
    Captures (.literal text :: segments) (node :: parts) vars
  | placeholder {name text : String} {type : PlaceholderType} {value : Captured}
    {segments : List Segment} {node : List Char} {parts : List (List Char)} {vars : Vars}
    (hnode : Text.percentDecodeText? (String.ofList node) = some text)
    (hvalue : type.convert? text = some value) (hrest : Captures segments parts vars) :
    Captures (.placeholder name type :: segments) (node :: parts) ((name, value) :: vars)

/-- What a decoded part is to its segment: the literal, or the text of the value that is captured
under the name. -/
def Segment.Holds (vars : Vars) (text : String) : Segment → Prop
  | .literal expected => expected = text
  | .placeholder name type => ∃ value, (name, value) ∈ vars ∧ type.convert? text = some value

theorem Segment.Holds.mono (h : segment.Holds vars text) (hsub : vars ⊆ more) :
    segment.Holds more text := by
  cases segment with
  | literal expected => exact h
  | placeholder name type =>
    obtain ⟨value, hmem, hvalue⟩ := h
    exact ⟨value, hsub hmem, hvalue⟩

/-- A text that is captured is the decoded part itself. -/
theorem Segment.Holds.mem_of_text (h : (Segment.placeholder name .text).Holds vars text) :
    (name, .text text) ∈ vars := by
  obtain ⟨value, hmem, hvalue⟩ := h
  cases hvalue
  exact hmem

namespace Captures

theorem declared_eq (h : Captures segments parts vars) :
    vars.map (fun var => (var.1, var.2.type)) = declared segments := by
  induction h with
  | nil => rfl
  | literal _ _ ih => exact ih
  | placeholder _ hvalue _ ih =>
    rw [List.map_cons, ih, type_of_convert? hvalue]
    rfl

theorem length_eq (h : Captures segments parts vars) : parts.length = segments.length := by
  induction h with
  | nil => rfl
  | literal _ _ ih => exact congrArg (· + 1) ih
  | placeholder _ _ _ ih => exact congrArg (· + 1) ih

theorem holds (h : Captures segments parts vars) (hsegment : segments[i]? = some segment) :
    ∃ node text, parts[i]? = some node ∧
      Text.percentDecodeText? (String.ofList node) = some text ∧ segment.Holds vars text := by
  induction h generalizing i with
  | nil => cases hsegment
  | @literal text segments node parts vars hnode _ ih =>
    cases i with
    | zero =>
      cases hsegment
      exact ⟨node, text, rfl, hnode, rfl⟩
    | succ i => exact ih hsegment
  | @placeholder name text type value segments node parts vars hnode hvalue _ ih =>
    cases i with
    | zero =>
      cases hsegment
      exact ⟨node, text, rfl, hnode, value, List.mem_cons_self, hvalue⟩
    | succ i =>
      obtain ⟨other, decoded, hother, hdecoded, hholds⟩ := ih hsegment
      exact ⟨other, decoded, hother, hdecoded, hholds.mono (List.subset_cons_self _ _)⟩

end Captures

theorem names_eq_map_declared (segments : List Segment) :
    names segments = (declared segments).map (·.1) := by
  rw [names, declared, List.map_filterMap]
  congr 1
  funext segment
  cases segment with
  | literal text => rfl
  | placeholder name type => rfl

namespace Pattern

theorem matchNodes?_eq_some_iff :
    matchNodes? segments parts = some vars ↔ Captures segments parts vars := by
  constructor
  · intro h
    induction segments generalizing parts vars with
    | nil =>
      cases parts with
      | nil =>
        cases h
        exact .nil
      | cons node parts => cases h
    | cons segment segments ih =>
      cases parts with
      | nil => cases h
      | cons node parts =>
        obtain ⟨text, hnode, h⟩ := Option.bind_eq_some_iff.mp h
        obtain ⟨captured, hcaptured, h⟩ := Option.bind_eq_some_iff.mp h
        obtain ⟨others, hothers, hvars⟩ := Option.bind_eq_some_iff.mp h
        cases hvars
        cases segment with
        | literal expected =>
          obtain ⟨rfl, hnone⟩ := Option.ite_none_right_eq_some.mp hcaptured
          cases hnone
          exact .literal hnode (ih hothers)
        | placeholder name type =>
          obtain ⟨value, hvalue, rfl⟩ := Option.map_eq_some_iff.mp hcaptured
          exact .placeholder hnode hvalue (ih hothers)
  · intro h
    induction h with
    | nil => rfl
    | literal hnode _ ih => simp [matchNodes?, hnode, matchSegment?, ih]
    | placeholder hnode hvalue _ ih => simp [matchNodes?, hnode, matchSegment?, hvalue, ih]

theorem match?_loose : p.match? path false = matchNodes? p.segments (nodes path.toList) := rfl

theorem match?_strict : p.match? path true =
    if endsInSlash path.toList = p.trailingSlash then p.match? path false else none := by
  unfold match?
  by_cases hends : endsInSlash path.toList = p.trailingSlash
  · simp [hends]
  · simp [hends]

theorem captures_of_match? {strict : Bool} (h : p.match? path strict = some vars) :
    Captures p.segments (nodes path.toList) vars := by
  rw [← matchNodes?_eq_some_iff, ← match?_loose]
  cases strict with
  | false => exact h
  | true =>
    rw [match?_strict] at h
    exact (Option.ite_none_right_eq_some.mp h).2

/-- A match has the names that the pattern declares, in its order and none of them twice, with
values of the declared types. The path has a part for each segment, between slashes that are written
as such, and each part decoded is the literal or the text of the value. A slash at the end only
counts where slashes are taken strictly: then path and pattern have to agree on it. Apart from it,
only the parts of the path count. -/
theorem match_captures_parts (source : String) (p : Pattern) (h : parse source = .ok p)
    (path : String) :
    (∀ parts, CutInto path parts ↔ parts = nodes path.toList) ∧
    (∀ vars, p.match? path false = some vars ↔
      Captures p.segments (nodes path.toList) vars) ∧
    (∀ strict vars, p.match? path strict = some vars →
      vars.map (·.1) = names p.segments ∧ (vars.map (·.1)).Nodup ∧
      vars.map (fun var => (var.1, var.2.type)) = declared p.segments ∧
      (nodes path.toList).length = p.segments.length ∧
      ∀ (i : Nat) (segment : Segment), p.segments[i]? = some segment →
        ∃ node text, (nodes path.toList)[i]? = some node ∧
          Text.percentDecodeText? (String.ofList node) = some text ∧ segment.Holds vars text ∧
          ∀ name, segment = .placeholder name .text → (name, .text text) ∈ vars) ∧
    ((TrailsSlash path ↔ TrailsSlash source) → p.match? path true = p.match? path false) ∧
    (¬ (TrailsSlash path ↔ TrailsSlash source) → p.match? path true = none) ∧
    ∀ other, nodes other.toList = nodes path.toList →
      p.match? other false = p.match? path false := by
  obtain ⟨hdescribes, -, htrailing⟩ := parse_eq_ok_iff.mp h
  have hagree : (TrailsSlash path ↔ TrailsSlash source) ↔
      endsInSlash path.toList = p.trailingSlash := by
    rw [htrailing, trailsSlash_iff, trailsSlash_iff]
    exact Bool.eq_iff_iff.symm
  refine ⟨fun parts => cutInto_iff, fun vars => ?_, ?_, ?_, ?_, ?_⟩
  · rw [match?_loose, matchNodes?_eq_some_iff]
  · intro strict vars hmatch
    have hcaptures := captures_of_match? hmatch
    have hnames : vars.map (·.1) = names p.segments := by
      rw [names_eq_map_declared, ← hcaptures.declared_eq, List.map_map]
      rfl
    refine ⟨hnames, hnames ▸ hdescribes.distinct, hcaptures.declared_eq, hcaptures.length_eq, ?_⟩
    intro i segment hsegment
    obtain ⟨node, text, hnode, htext, hholds⟩ := hcaptures.holds hsegment
    refine ⟨node, text, hnode, htext, hholds, ?_⟩
    rintro name rfl
    exact hholds.mem_of_text
  · intro hends
    rw [match?_strict, if_pos (hagree.mp hends)]
  · intro hends
    rw [match?_strict, if_neg (mt hagree.mpr hends)]
  · intro other hparts
    rw [match?_loose, match?_loose, hparts]

/-- An encoded slash within a part, slashes one after the other, and one at the end that the pattern
does not have. -/
theorem match_captures_parts_of_encoded_slash :
    ∃ p vars, parse "/files/<name>/<int:size>" = .ok p ∧
      p.match? "//files/a%2Fb//7/" false = some vars ∧
      vars.map (fun var => (var.1, var.2.type)) = [("name", .text), ("size", .integer)] ∧
      ("name", .text "a/b") ∈ vars ∧ p.match? "//files/a%2Fb//7/" true = none ∧
      p.match? "/files/a%2Fb/7" false = some vars := by
  let p : Pattern := ⟨"/files/<name>/<int:size>",
    [.literal "files", .placeholder "name" .text, .placeholder "size" .integer], false⟩
  let vars : Vars := [("name", .text "a/b"), ("size", .integer 7)]
  have hparse : parse "/files/<name>/<int:size>" = .ok p := rfl
  have hmatch : p.match? "//files/a%2Fb//7/" false = some vars := by decide +kernel
  obtain ⟨-, -, hcaptured, -, hdisagree, hparts⟩ :=
    match_captures_parts _ p hparse "//files/a%2Fb//7/"
  obtain ⟨-, -, hdeclared, -, hholds⟩ := hcaptured false vars hmatch
  obtain ⟨node, text, hnode, htext, -, hname⟩ := hholds 1 (.placeholder "name" .text) rfl
  have hends : ¬ (TrailsSlash "//files/a%2Fb//7/" ↔ TrailsSlash "/files/<name>/<int:size>") := by
    rw [trailsSlash_iff, trailsSlash_iff]
    decide
  have hdecoded : text = "a/b" := by
    cases hnode
    exact Option.some.inj (htext.symm.trans (by decide +kernel))
  refine ⟨p, vars, hparse, hmatch, hdeclared, ?_, hdisagree hends, ?_⟩
  · rw [← hdecoded]
    exact hname "name" rfl
  · rw [hparts "/files/a%2Fb/7" (by decide)]
    exact hmatch

end Pattern

end WebService.Route
