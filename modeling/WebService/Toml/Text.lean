import WebService.Json.Reader
import WebService.Toml.Line

/-!
Texts and keys in TOML documents. Quotation marks enclose texts with escapes, apostrophes texts
without; three marks enclose a text of several lines.
-/
namespace WebService.Toml

inductive Quoting where
  | basic
  | literal
deriving DecidableEq, Repr

namespace Quoting

def mark : Quoting → Char
  | basic => '"'
  | literal => '\x27'

def ofMark? (c : Char) : Option Quoting :=
  if c = '"' then some basic else if c = '\x27' then some literal else none

end Quoting

/-- The character whose code the digits are, if there is one. -/
def charOfHex? (digits : List Char) : Option Char := do
  let values ← digits.mapM Json.hexValue?
  let code := values.foldl (fun n d => 16 * n + d) 0
  if Nat.isValidChar code then some (Char.ofNat code) else none

/-- The character that stands after a backslash. -/
def readEscape? : List Char → Option (Char × List Char)
  | [] => none
  | c :: rest =>
    if c = '"' || c = '\\' then some (c, rest)
    else if c = 'b' then some ('\x08', rest)
    else if c = 'f' then some ('\x0c', rest)
    else if c = 'n' then some ('\n', rest)
    else if c = 'r' then some ('\r', rest)
    else if c = 't' then some ('\t', rest)
    else if c = 'u' && 4 ≤ rest.length then
      (charOfHex? (rest.take 4)).map fun char => (char, rest.drop 4)
    else if c = 'U' && 8 ≤ rest.length then
      (charOfHex? (rest.take 8)).map fun char => (char, rest.drop 8)
    else none

/-- The characters of a text up to its closing mark. Each step takes one character or more, so the
length of the text is enough `fuel`. -/
def readChars (quoting : Quoting) : Nat → List Char → Option (List Char × List Char)
  | 0, _ => none
  | _ + 1, [] => none
  | fuel + 1, c :: rest =>
    if c = quoting.mark then some ([], rest)
    else if c = '\\' && quoting = .basic then do
      let (char, rest) ← readEscape? rest
      let (more, rest) ← readChars quoting fuel rest
      return (char :: more, rest)
    else if isPlain c then do
      let (more, rest) ← readChars quoting fuel rest
      return (c :: more, rest)
    else none

/-- A text on one line after its opening mark. -/
def readLine (quoting : Quoting) (cs : List Char) : Option (String × List Char) :=
  (readChars quoting (cs.length + 1) cs).map fun (chars, rest) => (String.ofList chars, rest)

/-- What follows a line break that a backslash takes away together with the white space around
it. -/
def joinLines? (cs : List Char) : Option (List Char) := (lineBreak? (skipBlank cs)).map skipBreaks

/-- The characters of a text of several lines up to its closing marks. Of four or five marks in a
row, the last three close the text. -/
def readRows (quoting : Quoting) : Nat → List Char → Option (List Char × List Char)
  | 0, _ => none
  | _ + 1, [] => none
  | fuel + 1, c :: rest =>
    if c = quoting.mark then
      let marks := (c :: rest).takeWhile (· = c)
      let rest := (c :: rest).dropWhile (· = c)
      if marks.length < 3 then do
        let (more, rest) ← readRows quoting fuel rest
        return (marks ++ more, rest)
      else if marks.length ≤ 5 then some (marks.drop 3, rest)
      else none
    else if c = '\\' && quoting = .basic then
      match joinLines? rest with
      | some rest => readRows quoting fuel rest
      | none => do
        let (char, rest) ← readEscape? rest
        let (more, rest) ← readRows quoting fuel rest
        return (char :: more, rest)
    else
      match lineBreak? (c :: rest) with
      | some rest => do
        let (more, rest) ← readRows quoting fuel rest
        return ('\n' :: more, rest)
      | none =>
        if isPlain c then do
          let (more, rest) ← readRows quoting fuel rest
          return (c :: more, rest)
        else none

/-- A text of several lines after its opening marks, where a line break right behind these does not
count. -/
def readBlock (quoting : Quoting) (cs : List Char) : Option (String × List Char) :=
  (readRows quoting (cs.length + 1) ((lineBreak? cs).getD cs)).map fun (chars, rest) =>
    (String.ofList chars, rest)

/-- A text after the first of its opening marks. -/
def readText (quoting : Quoting) (cs : List Char) : Option (String × List Char) :=
  match cs with
  | a :: b :: rest =>
    if a = quoting.mark && b = quoting.mark then readBlock quoting rest else readLine quoting cs
  | _ => readLine quoting cs

/-! Keys -/

def isBare (c : Char) : Bool := c.isAlphanum || c = '-' || c = '_'

/-- A key, bare or as a text on one line. -/
def readKey (cs : List Char) : Option (String × List Char) :=
  match cs with
  | [] => none
  | c :: rest =>
    match Quoting.ofMark? c with
    | some quoting => readLine quoting rest
    | none =>
      let name := cs.takeWhile isBare
      if name.isEmpty then none else some (String.ofList name, cs.dropWhile isBare)

/-- Paths have fewer keys than this. -/
def pathLimit : Nat := 80

/-- Keys with points between them; blanks may stand around each. -/
def readKeys : Nat → List Char → Option (List String × List Char)
  | 0, _ => none
  | limit + 1, cs => do
    let (key, rest) ← readKey (skipBlank cs)
    match skipBlank rest with
    | '.' :: rest =>
      let (keys, rest) ← readKeys limit rest
      return (key :: keys, rest)
    | rest => return ([key], rest)

/-- The path to a key: those before it, and the key itself. -/
def readPath (cs : List Char) : Option ((List String × String) × List Char) := do
  let (keys, rest) ← readKeys (pathLimit - 1) cs
  match keys.getLast? with
  | some key => return ((keys.dropLast, key), rest)
  | none => none

end WebService.Toml
