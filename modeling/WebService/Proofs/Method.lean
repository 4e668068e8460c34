import WebService.Method
import WebService.Proofs.Chain
import WebService.Proofs.Number.Integer
import WebService.Proofs.Response.Headers
import WebService.Proofs.Text.Split
import WebService.Response.Build

/-!
Lists of methods come back as they are joined, with white space and commas between them. Of a text
that is no such list the first piece that names no method is reported, as it stands there.
-/
namespace WebService.Method

variable {c : Char} {s piece fault : String} {named : List String} {m : Method}
  {methods : List Method}

/-- Whether a text is some pieces without white space and commas, with these between each two and
around all. -/
def HasPieces (s : String) (named : List String) : Prop :=
  Text.HasParts isSeparator s.toList (named.map String.toList)

/-- Whether a piece, with its ASCII letters as capitals, is the token of a method. -/
def Names (piece : String) (m : Method) : Prop :=
  m.name.toList = piece.toList.map Char.toUpper ∧ Header.isToken m.name = true

/-- Whether a method is a token without small ASCII letters. -/
def IsCapital (m : Method) : Prop :=
  Header.isToken m.name = true ∧ ∀ c ∈ m.name.toList, c.isLower = false

instance : Decidable m.IsCapital :=
  decidable_of_iff
    (Header.isToken m.name = true ∧ (m.name.toList.all fun c => !c.isLower) = true)
    (by simp [IsCapital])

/-! Pieces -/

theorem hasPieces_iff : HasPieces s named ↔ pieces s = named := by
  rw [HasPieces, Text.hasParts_iff, pieces]
  constructor
  · intro h
    simp [h, Function.comp_def]
  · rintro rfl
    simp [Function.comp_def]

theorem ofPiece?_eq_some_iff : ofPiece? piece = some m ↔ Names piece m := by
  rw [ofPiece?, ofToken?, Option.ite_none_right_eq_some, Option.some_inj, Names]
  constructor
  · rintro ⟨htoken, rfl⟩
    exact ⟨String.toList_ofList, htoken⟩
  · rintro ⟨hname, htoken⟩
    have heq : String.ofList (piece.toList.map Char.toUpper) = m.name := by
      rw [← hname, String.ofList_toList]
    rw [heq]
    exact ⟨htoken, rfl⟩

theorem ofPiece?_eq_none_iff : ofPiece? piece = none ↔ ∀ m, ¬ Names piece m := by
  simp only [Option.eq_none_iff_forall_ne_some, ne_eq, ofPiece?_eq_some_iff]

/-- The method of a piece, or the piece as a fault. -/
def read (piece : String) : Except String Method :=
  match ofPiece? piece with
  | some m => .ok m
  | none => .error piece

theorem read_eq_ok_iff : read piece = .ok m ↔ Names piece m := by
  rw [read, ← ofPiece?_eq_some_iff]
  cases ofPiece? piece <;> simp

def faults (piece : String) : List String := if (ofPiece? piece).isSome then [] else [piece]

theorem reports_read (piece : String) : Reports (read piece) (faults piece) := by
  rw [read, faults]
  cases ofPiece? piece with
  | none => rfl
  | some m => exact ⟨m, rfl⟩

theorem head?_faults_eq_none_iff : (faults piece).head? = none ↔ ∃ m, Names piece m := by
  simp only [← ofPiece?_eq_some_iff, ← Option.isSome_iff_exists, faults]
  split <;> simp_all

theorem head?_faults_eq_some_iff :
    (faults piece).head? = some fault ↔ piece = fault ∧ ∀ m, ¬ Names piece m := by
  rw [← ofPiece?_eq_none_iff, faults]
  cases ofPiece? piece <;> simp

theorem parseList_of_ne_nil (h : pieces s ≠ []) : parseList s = (pieces s).mapM read := by
  rw [parseList]
  split
  · rename_i hnil
    exact absurd hnil h
  · rfl

theorem parseList_of_nil (h : pieces s = []) : parseList s = .error s := by
  rw [parseList, h]

theorem parseList_eq_ok_iff : parseList s = .ok methods ↔
    methods ≠ [] ∧ ∃ named, HasPieces s named ∧ List.Forall₂ Names named methods := by
  simp only [hasPieces_iff, exists_eq_left']
  by_cases hnil : pieces s = []
  · rw [parseList_of_nil hnil, hnil]
    simp
  · rw [parseList_of_ne_nil hnil, mapM_eq_ok_iff]
    simp only [read_eq_ok_iff]
    constructor
    · intro h
      refine ⟨?_, h⟩
      rintro rfl
      exact hnil (List.forall₂_nil_right_iff.mp h)
    · exact And.right

theorem parseList_eq_error_iff : parseList s = .error fault ↔
    HasPieces s [] ∧ fault = s ∨ ∃ before behind, HasPieces s (before ++ fault :: behind) ∧
      (∀ piece ∈ before, ∃ m, Names piece m) ∧ ∀ m, ¬ Names fault m := by
  simp only [hasPieces_iff]
  by_cases hnil : pieces s = []
  · rw [parseList_of_nil hnil, hnil]
    simp [eq_comm]
  · rw [parseList_of_ne_nil hnil, (reports_mapM reports_read _).eq_error_iff, List.head?_flatMap,
      List.findSome?_eq_some_iff]
    simp only [head?_faults_eq_none_iff, head?_faults_eq_some_iff]
    constructor
    · rintro ⟨before, _, behind, hpieces, ⟨rfl, hfault⟩, hbefore⟩
      exact .inr ⟨before, behind, hpieces, hbefore, hfault⟩
    · rintro (⟨hempty, -⟩ | ⟨before, behind, hpieces, hbefore, hfault⟩)
      · exact absurd hempty hnil
      · exact ⟨before, fault, behind, hpieces, ⟨rfl, hfault⟩, hbefore⟩

/-! Lists that come back -/

theorem toNat_of_isAlphanum (h : c.isAlphanum = true) : 48 ≤ c.toNat ∧ c.toNat ≤ 57 ∨
    65 ≤ c.toNat ∧ c.toNat ≤ 90 ∨ 97 ≤ c.toNat ∧ c.toNat ≤ 122 := by
  rcases (Bool.or_eq_true _ _).mp h with hletter | hdigit
  · rcases (Bool.or_eq_true _ _).mp hletter with hcapital | hsmall
    · exact .inr (.inl (of_decide_eq_true hcapital))
    · obtain ⟨hlow, hhigh⟩ := (Bool.and_eq_true _ _).mp hsmall
      exact .inr (.inr ⟨of_decide_eq_true hlow, of_decide_eq_true hhigh⟩)
  · exact .inl (Number.toNat_of_isDigit hdigit)

theorem isSeparator_of_isAlphanum (h : c.isAlphanum = true) : isSeparator c = false := by
  have hbounds := toNat_of_isAlphanum h
  have hcomma : c ≠ ',' := by
    rintro rfl
    simp at hbounds
  simp [isSeparator, Text.isBlank, Text.inRanges, Text.blankRanges, hcomma]
  omega

theorem isSeparator_of_isTokenChar (h : Header.isTokenChar c = true) : isSeparator c = false := by
  rw [Header.isTokenChar, Bool.or_eq_true, List.contains_iff_mem] at h
  rcases h with halphanum | hmark
  · exact isSeparator_of_isAlphanum halphanum
  · have hmarks : ("!#$%&'*+-.^_\x60|~".toList.any isSeparator) = false := by decide
    exact Bool.eq_false_iff.mpr (List.any_eq_false.mp hmarks c hmark)

theorem toUpper_of_isLower_eq_false (h : c.isLower = false) : c.toUpper = c := by
  refine dif_neg fun hbounds => ?_
  have hsmall : c.isLower = true :=
    Bool.and_eq_true_iff.mpr ⟨decide_eq_true hbounds.1, decide_eq_true hbounds.2⟩
  rw [h] at hsmall
  cases hsmall

theorem IsCapital.names (h : m.IsCapital) : Names m.name m := by
  have hsame : m.name.toList.map Char.toUpper = m.name.toList.map id :=
    List.map_congr_left fun c hc => toUpper_of_isLower_eq_false (h.2 c hc)
  rw [List.map_id] at hsame
  exact ⟨hsame.symm, h.1⟩

theorem hasPieces_joined (h : ∀ m ∈ methods, Header.isToken m.name = true) :
    HasPieces (joined methods) (methods.map (·.name)) := by
  rw [HasPieces, joined, String.toList_intercalate]
  have hcomma : ", ".toList.all isSeparator = true := by decide
  refine Text.hasParts_intercalate (by decide) (List.all_eq_true.mp hcomma) fun part hpart => ?_
  rw [List.map_map, List.mem_map] at hpart
  obtain ⟨m, hm, rfl⟩ := hpart
  have htoken := h m hm
  simp only [Header.isToken, Bool.and_eq_true, Bool.not_eq_true', List.all_eq_true] at htoken
  refine ⟨?_, fun c hc => isSeparator_of_isTokenChar (htoken.2 c hc)⟩
  rw [Function.comp_apply, ne_eq, String.toList_eq_nil_iff, ← String.isEmpty_iff, htoken.1]
  exact Bool.false_ne_true

/-- Methods in capital letters are read from any text that has them as its pieces, so also from what
a refusal tells of them. A text is refused if it has no piece or one that names no method, and then
it is reported itself, or the first such piece. -/
theorem method_lists_come_back :
    (∀ (s : String) (methods : List Method), methods ≠ [] → (∀ m ∈ methods, m.IsCapital) →
      HasPieces s (methods.map (·.name)) → parseList s = .ok methods) ∧
    (∀ methods : List Method, methods ≠ [] → (∀ m ∈ methods, m.IsCapital) →
      ∃ text, (Response.methodNotAllowed methods).header? "Allow" = some text ∧
        parseList text = .ok methods) ∧
    (∀ s methods, parseList s = .ok methods ↔
      methods ≠ [] ∧ ∃ named, HasPieces s named ∧ List.Forall₂ Names named methods) ∧
    ∀ s fault, parseList s = .error fault ↔
      HasPieces s [] ∧ fault = s ∨ ∃ before behind, HasPieces s (before ++ fault :: behind) ∧
        (∀ piece ∈ before, ∃ m, Names piece m) ∧ ∀ m, ¬ Names fault m := by
  have hread : ∀ (s : String) (methods : List Method), methods ≠ [] → (∀ m ∈ methods, m.IsCapital) →
      HasPieces s (methods.map (·.name)) → parseList s = .ok methods := by
    intro s methods hne hcapital hpieces
    refine parseList_eq_ok_iff.mpr ⟨hne, _, hpieces, ?_⟩
    rw [List.forall₂_map_left_iff, List.forall₂_same]
    exact fun m hm => (hcapital m hm).names
  refine ⟨hread, fun methods hne hcapital => ?_, fun s methods => parseList_eq_ok_iff,
    fun s fault => parseList_eq_error_iff⟩
  exact ⟨_, Response.header?_setHeader_self,
    hread _ methods hne hcapital (hasPieces_joined fun m hm => (hcapital m hm).1)⟩

/-- White space of other scripts, runs of commas, a method that comes twice, small letters, and two
texts that are refused. -/
theorem method_lists_come_back_of_runs :
    let methods : List Method := [.get, ⟨"M-SEARCH"⟩, .get]
    let runs := "\u3000,GET\u2003, M-SEARCH,,\tGET,"
    methods ≠ [] ∧ (∀ m ∈ methods, m.IsCapital) ∧ HasPieces runs (methods.map (·.name)) ∧
      parseList runs = .ok methods ∧ parseList "GET, M-SEARCH, GET" = .ok methods ∧
      parseList "get,Post" = .ok [.get, .post] ∧ parseList " ,\t" = .error " ,\t" ∧
      parseList "get po(st g@t" = .error "po(st" := by
  intro methods runs
  have hcapital : ∀ m ∈ methods, m.IsCapital := by decide
  have hruns : HasPieces runs (methods.map (·.name)) := hasPieces_iff.mpr (by decide)
  obtain ⟨hread, hallow, hok, herror⟩ := method_lists_come_back
  obtain ⟨text, htext, htold⟩ := hallow methods (by decide) hcapital
  obtain rfl : "GET, M-SEARCH, GET" = text :=
    Option.some_inj.mp (Response.header?_setHeader_self.symm.trans htext)
  have hback := hread runs methods (by decide) hcapital hruns
  refine ⟨by decide, hcapital, hruns, hback, htold, ?_, ?_, ?_⟩
  · refine (hok _ _).mpr ⟨by decide, ["get", "Post"], hasPieces_iff.mpr (by decide), ?_⟩
    exact .cons ⟨by decide, by decide⟩ (.cons ⟨by decide, by decide⟩ .nil)
  · exact (herror _ _).mpr (.inl ⟨hasPieces_iff.mpr (by decide), rfl⟩)
  · refine (herror _ _).mpr (.inr ⟨["get"], ["g@t"], hasPieces_iff.mpr (by decide), ?_, ?_⟩)
    · exact List.forall_mem_singleton.mpr ⟨.get, by decide, by decide⟩
    · exact ofPiece?_eq_none_iff.mp (by decide)

end WebService.Method
