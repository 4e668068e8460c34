import WebService.Json.Reader
import WebService.Markup.Event
import WebService.Text.Range

/-!
The grammar of XML documents, over the characters that an alphabet allows. Documents with a document
type declaration are left out.
-/
namespace WebService.Markup

/-- The characters of documents, and those that names begin with and are made of. -/
structure Alphabet where
  isChar : Char → Bool
  isNameStart : Char → Bool
  isNameChar : Char → Bool

/-- The characters that names begin with in XML 1.0. -/
def xmlNameStartRanges : List (Nat × Nat) := [
  (0x3a, 0x3a), (0x41, 0x5a), (0x5f, 0x5f), (0x61, 0x7a), (0xc0, 0xd6), (0xd8, 0xf6), (0xf8, 0x2ff),
  (0x370, 0x37d), (0x37f, 0x1fff), (0x200c, 0x200d), (0x2070, 0x218f), (0x2c00, 0x2fef),
  (0x3001, 0xd7ff), (0xf900, 0xfdcf), (0xfdf0, 0xfffd), (0x10000, 0xeffff)]

/-- The other characters of names in XML 1.0. -/
def xmlNameRanges : List (Nat × Nat) :=
  [(0x2d, 0x2e), (0x30, 0x39), (0xb7, 0xb7), (0x300, 0x36f), (0x203f, 0x2040)]

def xmlCharRanges : List (Nat × Nat) :=
  [(0x9, 0xa), (0xd, 0xd), (0x20, 0xd7ff), (0xe000, 0xfffd), (0x10000, 0x10ffff)]

/-- The alphabet of XML 1.0. -/
def Alphabet.xml : Alphabet where
  isChar := Text.inRanges xmlCharRanges
  isNameStart := Text.inRanges xmlNameStartRanges
  isNameChar c := Text.inRanges xmlNameStartRanges c || Text.inRanges xmlNameRanges c

/-! Parts of tags -/

def IsBlank (cs : List Char) : Prop := ∀ c ∈ cs, isSpace c = true

/-- Whether a text is white space and a name that is set to a value in quotes. -/
def Sets (name : List Char) (quote : Char) (value cs : List Char) : Prop :=
  (quote = '"' ∨ quote = '\'') ∧ ∃ blank before behind, blank ≠ [] ∧
    IsBlank blank ∧ IsBlank before ∧ IsBlank behind ∧
    cs = blank ++ (name ++ (before ++ '=' :: (behind ++ quote :: (value ++ [quote]))))

namespace Alphabet

variable (a : Alphabet)

def IsName : List Char → Prop
  | [] => False
  | c :: cs => a.isNameStart c = true ∧ ∀ d ∈ cs, a.isNameChar d = true

instance (cs : List Char) : Decidable (a.IsName cs) :=
  match cs with
  | [] => isFalse id
  | c :: cs => decidable_of_iff (a.isNameStart c = true ∧ cs.all a.isNameChar = true)
      (and_congr_right fun _ => List.all_eq_true)

/-- Whether all characters of a text are allowed. -/
def Admits (cs : List Char) : Prop := ∀ c ∈ cs, a.isChar c = true

instance (cs : List Char) : Decidable (a.Admits cs) :=
  decidable_of_iff (cs.all a.isChar = true) List.all_eq_true

/-- A reference to one of five marks by name, or to a character by its number. -/
inductive IsReference : List Char → Prop where
  | named {name : String} (h : name ∈ ["lt", "gt", "amp", "apos", "quot"]) :
      IsReference ('&' :: (name.toList ++ [';']))
  | decimal {c : Char} {digits : List Char} (hc : a.isChar c = true)
      (hdigits : Number.allDigits digits = true) (hvalue : Number.natOfDigits digits = c.toNat) :
      IsReference ('&' :: '#' :: (digits ++ [';']))
  | hexadecimal {c : Char} {digits : List Char} (hc : a.isChar c = true) (hne : digits ≠ [])
      (hdigits : ∀ d ∈ digits, (Json.hexValue? d).isSome = true)
      (hvalue : (digits.filterMap Json.hexValue?).foldl (fun n d => 16 * n + d) 0 = c.toNat) :
      IsReference ('&' :: '#' :: 'x' :: (digits ++ [';']))

/-- What may stand between two `quote`s. -/
inductive IsValue (quote : Char) : List Char → Prop where
  | nil : IsValue quote []
  | char {c : Char} {cs : List Char} (hc : a.isChar c = true) (hplain : c ∉ ['<', '&', quote])
      (hcs : IsValue quote cs) : IsValue quote (c :: cs)
  | reference {first cs : List Char} (hfirst : a.IsReference first) (hcs : IsValue quote cs) :
      IsValue quote (first ++ cs)

/-- Attributes with these names, and white space behind them. -/
inductive IsAttributes : List (List Char) → List Char → Prop where
  | nil {cs : List Char} (h : IsBlank cs) : IsAttributes [] cs
  | cons {name value first cs : List Char} {names : List (List Char)} {quote : Char}
      (hname : a.IsName name) (hvalue : a.IsValue quote value)
      (hfirst : Sets name quote value first) (hcs : IsAttributes names cs) :
      IsAttributes (name :: names) (first ++ cs)

/-! Content -/

/-- Characters that are no markup. -/
def IsCharData (cs : List Char) : Prop :=
  (∀ c ∈ cs, a.isChar c = true ∧ c ∉ ['<', '&']) ∧ ¬ "]]>".toList <:+: cs

def IsComment (cs : List Char) : Prop :=
  ∃ body, cs = "<!--".toList ++ (body ++ "-->".toList) ∧ a.Admits body ∧
    ¬ "--".toList <:+: body ++ ['-']

def IsDataSection (cs : List Char) : Prop :=
  ∃ body, cs = "<![CDATA[".toList ++ (body ++ "]]>".toList) ∧ a.Admits body ∧
    ¬ "]]>".toList <:+: body

/-- A processing instruction, whose target is not the name of declarations. -/
def IsInstruction (cs : List Char) : Prop :=
  ∃ target body, cs = "<?".toList ++ (target ++ (body ++ "?>".toList)) ∧ a.IsName target ∧
    target.map Char.toLower ≠ "xml".toList ∧ (∀ c, body.head? = some c → isSpace c = true) ∧
    a.Admits body ∧ ¬ "?>".toList <:+: body

mutual

/-- An element, in whose tag no attribute stands twice, and whose end tag has its name. -/
inductive IsElement : List Char → Prop where
  | empty {name attributes : List Char} {names : List (List Char)} (hname : a.IsName name)
      (hattributes : a.IsAttributes names attributes) (hnames : names.Nodup) :
      IsElement ('<' :: (name ++ (attributes ++ ['/', '>'])))
  | closed {name attributes inner blank : List Char} {names : List (List Char)}
      (hname : a.IsName name) (hattributes : a.IsAttributes names attributes)
      (hnames : names.Nodup) (hinner : IsContent inner) (hblank : IsBlank blank) :
      IsElement ('<' :: (name ++ (attributes ++ '>' ::
        (inner ++ '<' :: '/' :: (name ++ (blank ++ ['>']))))))

/-- What stands in an element beside characters. -/
inductive IsItem : List Char → Prop where
  | element {cs : List Char} (h : IsElement cs) : IsItem cs
  | reference {cs : List Char} (h : a.IsReference cs) : IsItem cs
  | dataSection {cs : List Char} (h : a.IsDataSection cs) : IsItem cs
  | instruction {cs : List Char} (h : a.IsInstruction cs) : IsItem cs
  | comment {cs : List Char} (h : a.IsComment cs) : IsItem cs

inductive IsContent : List Char → Prop where
  | data {cs : List Char} (h : a.IsCharData cs) : IsContent cs
  | item {data item cs : List Char} (hdata : a.IsCharData data) (hitem : IsItem item)
      (hcs : IsContent cs) : IsContent (data ++ (item ++ cs))

end

/-! Documents -/

/-- What may stand before and behind the root: white space, comments and instructions. -/
inductive IsMisc : List Char → Prop where
  | nil : IsMisc []
  | blank {c : Char} {cs : List Char} (hc : isSpace c = true) (hcs : IsMisc cs) : IsMisc (c :: cs)
  | comment {first cs : List Char} (hfirst : a.IsComment first) (hcs : IsMisc cs) :
      IsMisc (first ++ cs)
  | instruction {first cs : List Char} (hfirst : a.IsInstruction first) (hcs : IsMisc cs) :
      IsMisc (first ++ cs)

end Alphabet

def IsVersion (value : List Char) : Prop :=
  ∃ digits, digits ≠ [] ∧ (∀ c ∈ digits, c.isDigit = true) ∧ value = '1' :: '.' :: digits

def IsEncoding (value : List Char) : Prop :=
  ∃ c cs, value = c :: cs ∧ c.isAlpha = true ∧
    ∀ d ∈ cs, d.isAlphanum = true ∨ d ∈ ['.', '_', '-']

/-- The declaration of a document: a version, perhaps an encoding and whether it stands alone. -/
def IsDeclaration (cs : List Char) : Prop :=
  ∃ version encoding standalone blank,
    cs = "<?xml".toList ++ (version ++ (encoding ++ (standalone ++ (blank ++ "?>".toList)))) ∧
    (∃ quote value, IsVersion value ∧ Sets "version".toList quote value version) ∧
    (encoding = [] ∨ ∃ quote value, IsEncoding value ∧
      Sets "encoding".toList quote value encoding) ∧
    (standalone = [] ∨ ∃ quote value, (value = "yes".toList ∨ value = "no".toList) ∧
      Sets "standalone".toList quote value standalone) ∧
    IsBlank blank

namespace Alphabet

variable {a : Alphabet} {c : Char} {cs rest : List Char}

/-- A document: one root element. A byte order mark may stand in front. -/
inductive IsDocument (a : Alphabet) : List Char → Prop where
  | mk {mark declaration before root behind : List Char} (hmark : mark = [] ∨ mark = ['\ufeff'])
      (hdeclaration : declaration = [] ∨ IsDeclaration declaration) (hbefore : a.IsMisc before)
      (hroot : a.IsElement root) (hbehind : a.IsMisc behind) :
      IsDocument a (mark ++ (declaration ++ (before ++ (root ++ behind))))

theorem IsElement.isDocument (h : a.IsElement cs) : a.IsDocument cs := by
  have hdocument := IsDocument.mk (.inl rfl) (.inl rfl) .nil h .nil
  simpa using hdocument

/-! What documents begin with -/

/-- Behind an angle bracket in front there stands the mark of an aside, or a name begins. -/
def BeginsMarkup (a : Alphabet) (cs : List Char) : Prop :=
  ∀ c rest, cs = '<' :: c :: rest → c = '!' ∨ c = '?' ∨ a.isNameStart c = true

theorem beginsMarkup_of_mark (h : c = '!' ∨ c = '?' ∨ a.isNameStart c = true) (rest : List Char) :
    a.BeginsMarkup ('<' :: c :: rest) := by
  intro d ds hcs
  injection hcs with _ hcs
  injection hcs with hd _
  exact hd ▸ h

theorem beginsMarkup_of_ne (h : c ≠ '<') (rest : List Char) : a.BeginsMarkup (c :: rest) := by
  intro d ds hcs
  injection hcs with hd _
  exact absurd hd h

theorem IsElement.beginsMarkup (h : a.IsElement cs) (rest : List Char) :
    a.BeginsMarkup (cs ++ rest) := by
  have hbegins : ∀ {name behind : List Char}, a.IsName name →
      a.BeginsMarkup ('<' :: (name ++ behind)) := by
    intro name behind hname
    cases name with
    | nil => exact hname.elim
    | cons c name => exact beginsMarkup_of_mark (.inr (.inr hname.1)) _
  cases h with
  | empty hname => simpa using hbegins hname
  | closed hname => simpa using hbegins hname

theorem IsMisc.beginsMarkup (h : a.IsMisc cs) (hrest : a.BeginsMarkup rest) :
    a.BeginsMarkup (cs ++ rest) := by
  cases h with
  | nil => exact hrest
  | blank hc =>
    refine beginsMarkup_of_ne ?_ _
    rintro rfl
    cases hc
  | comment hfirst =>
    obtain ⟨body, rfl, -⟩ := hfirst
    exact beginsMarkup_of_mark (.inl rfl) _
  | instruction hfirst =>
    obtain ⟨target, body, rfl, -⟩ := hfirst
    exact beginsMarkup_of_mark (.inr (.inl rfl)) _

theorem IsDocument.beginsMarkup (h : a.IsDocument cs) : a.BeginsMarkup cs := by
  obtain ⟨hmark, hdeclaration, hbefore, hroot, hbehind⟩ := h
  rcases hmark with rfl | rfl
  · rcases hdeclaration with rfl | ⟨version, encoding, standalone, blank, rfl, -⟩
    · exact hbefore.beginsMarkup (hroot.beginsMarkup _)
    · exact beginsMarkup_of_mark (.inr (.inl rfl)) _
  · exact beginsMarkup_of_ne (by decide) _

end Alphabet

end WebService.Markup
