import WebService.Toml.Moment
import WebService.Toml.Number
import WebService.Toml.Text

/-!
Reading TOML documents: values, statements, and the entries that they make.
-/
namespace WebService.Toml

/-! Values -/

/-- A number, or else a date or a time. -/
def readNumeric (cs : List Char) : Option (Node × List Char) :=
  match readMoment? cs with
  | some (text, rest) => some (.moment text, rest)
  | none => (readNumber cs).map fun
    | (.whole value, rest) => (.integer value, rest)
    | (.real value, rest) => (.real value, rest)

/-- A value that does not hold others. -/
def readScalar (cs : List Char) : Option (Node × List Char) :=
  match cs with
  | 't' :: 'r' :: 'u' :: 'e' :: rest => some (.boolean true, rest)
  | 'f' :: 'a' :: 'l' :: 's' :: 'e' :: rest => some (.boolean false, rest)
  | c :: rest =>
    match Quoting.ofMark? c with
    | some quoting => (readText quoting rest).map fun (text, rest) => (.text text, rest)
    | none => readNumeric cs
  | [] => none

/-- The items of an array, each read by `item`, up to its closing bracket; a comma may follow the
last one. -/
def readItems (item : List Char → Option (Node × List Char)) :
    Nat → List Char → Option (List Node × List Char)
  | 0, _ => none
  | fuel + 1, cs =>
    match skipLines cs with
    | ']' :: rest => some ([], rest)
    | cs => do
      let (first, rest) ← item cs
      match skipLines rest with
      | ',' :: rest =>
        let (items, rest) ← readItems item fuel rest
        return (first :: items, rest)
      | ']' :: rest => return ([first], rest)
      | _ => none

/-- A key and the value behind its equals sign. -/
def readPair (value : List Char → Option (Node × List Char)) (cs : List Char) :
    Option (((List String × String) × Node) × List Char) := do
  let (path, rest) ← readPath cs
  match rest with
  | '=' :: rest =>
    let (node, rest) ← value (skipBlank rest)
    return ((path, node), rest)
  | _ => none

/-- The keys of a table in braces with their values, up to the closing brace. -/
def readPairs (value : List Char → Option (Node × List Char)) :
    Nat → List Char → Option (List ((List String × String) × Node) × List Char)
  | 0, _ => none
  | fuel + 1, cs => do
    let (pair, rest) ← readPair value cs
    match skipBlank rest with
    | ',' :: rest =>
      let (pairs, rest) ← readPairs value fuel rest
      return (pair :: pairs, rest)
    | '\x7d' :: rest => return ([pair], rest)
    | _ => none

/-- A table after its opening brace. -/
def readBraces (value : List Char → Option (Node × List Char)) (cs : List Char) :
    Option (Node × List Char) :=
  match skipBlank cs with
  | '\x7d' :: rest => some (.table .braces [], rest)
  | _ => do
    let (pairs, rest) ← readPairs value (cs.length + 1) cs
    return (.table .braces (← Entries.ofPairs? pairs), rest)

/-- A value in which arrays and tables nest at most `depth` deep. -/
def readValue : Nat → List Char → Option (Node × List Char)
  | 0, cs => readScalar cs
  | depth + 1, cs =>
    match cs with
    | '[' :: rest =>
      (readItems (readValue depth) (rest.length + 1) rest).map fun (items, rest) =>
        (.list items, rest)
    | '\x7b' :: rest => readBraces (readValue depth) rest
    | _ => readScalar cs

/-! Statements -/

def depthLimit : Nat := 79

/-- A header after its opening bracket. -/
def readHeader (cs : List Char) : Option (Statement × List Char) :=
  match cs with
  | '[' :: rest => do
    let ((path, key), rest) ← readPath rest
    match rest with
    | ']' :: ']' :: rest => return (.element path key, ← endLine? rest)
    | _ => none
  | _ => do
    let ((path, key), rest) ← readPath cs
    match rest with
    | ']' :: rest => return (.table path key, ← endLine? rest)
    | _ => none

/-- A statement and the rest of the document behind its line. -/
def readStatement (cs : List Char) : Option (Statement × List Char) :=
  match cs with
  | '[' :: rest => readHeader rest
  | _ => do
    let (((path, key), value), rest) ← readPair (readValue depthLimit) cs
    return (.assign path key value, ← endLine? rest)

/-- The statements of a document. Each takes a line or more, so the length of the document is enough
`fuel`. -/
def readStatements : Nat → List Char → Option (List Statement)
  | 0, _ => none
  | fuel + 1, cs =>
    match endLine? cs with
    | some [] => some []
    | some rest => readStatements fuel rest
    | none => do
      let (statement, rest) ← readStatement (skipBlank cs)
      let statements ← readStatements fuel rest
      return statement :: statements

/-! Documents -/

/-- A document may begin with a byte order mark. -/
def skipMark : List Char → List Char
  | '\ufeff' :: rest => rest
  | cs => cs

/-- The entries that a document makes. A document as a whole tells no date or time. -/
def Entries.parse? (s : String) : Option Entries := do
  let cs := skipMark s.toList
  let entries ← Entries.ofStatements? (← readStatements (cs.length + 1) cs)
  match ← tableWithMoments? .header entries with
  | .table _ entries => return entries
  | _ => none

end WebService.Toml
