import WebService.Error
import WebService.Number.Layout
import WebService.Number.Reading
import WebService.Text.Percent
import WebService.Text.Split

/-!
Patterns of routes: segments that are literal or stand for a value of a declared type.
-/
namespace WebService.Route

inductive PlaceholderType where
  | text
  | integer
  | real
  | flag
deriving DecidableEq, Repr, Inhabited

/-- A value captured from a path. -/
inductive Captured where
  | text (value : String)
  | integer (value : Int)
  | real (value : Number.Binary)
  | flag (value : Bool)
deriving DecidableEq, Repr, Inhabited

namespace Captured

def asText? : Captured → Option String
  | text s => some s
  | _ => none

def asInt? : Captured → Option Int
  | integer i => some i
  | _ => none

/-- The value as a floating-point number, which an integer is rounded to. -/
def asReal? : Captured → Option Number.Binary
  | real x => some x
  | integer i => some (Number.double.ofInt i)
  | _ => none

def asFlag? : Captured → Option Bool
  | flag b => some b
  | _ => none

def display : Captured → String
  | text s => s
  | integer i => String.ofList (Number.intText i)
  | real x => String.ofList (Number.plainText Number.double x)
  | flag b => if b then "true" else "false"

end Captured

/-- A truth value: an integer, of which only zero is false, or one of six words in any case. -/
def readFlag? (s : String) : Option Bool :=
  match Number.readInt64 s.toList with
  | some i => some (i ≠ 0)
  | none =>
    match String.ofList (s.toList.map Char.toLower) with
    | "true" | "yes" | "on" => some true
    | "false" | "no" | "off" => some false
    | _ => none

namespace PlaceholderType

def ofName? : String → Option PlaceholderType
  | "str" => some text
  | "int" => some integer
  | "float" => some real
  | "bool" => some flag
  | _ => none

/-- The value of the type that a text stands for. -/
def convert? (type : PlaceholderType) (s : String) : Option Captured :=
  match type with
  | text => some (.text s)
  | integer => (Number.readInt64 s.toList).map .integer
  | real => (Number.readBinary Number.double s.toList).map .real
  | flag => (readFlag? s).map .flag

end PlaceholderType

inductive Segment where
  | literal (text : String)
  | placeholder (name : String) (type : PlaceholderType)
deriving DecidableEq, Repr, Inhabited

def Segment.name? : Segment → Option String
  | literal _ => none
  | placeholder name _ => some name

structure Pattern where
  source : String
  segments : List Segment
  trailingSlash : Bool
deriving DecidableEq, Repr, Inhabited

/-- The values of a match under their names, in the order of the pattern. -/
abbrev Vars := List (String × Captured)

/-- The nonempty parts between slashes. -/
def nodes (path : List Char) : List (List Char) :=
  (Text.splitOn (· = '/') path).filter fun node => !node.isEmpty

/-- Whether a path of more than one character ends in a slash. -/
def endsInSlash (path : List Char) : Bool := 1 < path.length && path.getLast? = some '/'

namespace Pattern

/-- The placeholder between two angle brackets, which stand off. -/
def readPlaceholder (source : String) (known : List String) (inner : List Char) :
    Except Error Segment := do
  let (name, type) ← match Text.splitFirst? (· = ':') inner with
    | some (type, name) =>
      match PlaceholderType.ofName? (String.ofList type) with
      | some t => pure (String.ofList name, t)
      | none => .error (.invalidPlaceholder (String.ofList type))
    | none => pure (String.ofList inner, .text)
  if name.isEmpty then .error (.invalidPattern source .noName)
  else if known.contains name then .error (.invalidPattern source .repeatedName)
  else return .placeholder name type

/-- A segment of a pattern, given the names that stand before it. -/
def readSegment (source : String) (known : List String) (node : List Char) :
    Except Error Segment :=
  match node with
  | '<' :: inner =>
    if inner.getLast? = some '>' then readPlaceholder source known inner.dropLast
    else .error (.invalidPattern source .openPlaceholder)
  | _ =>
    if node.any fun c => c = '<' || c = '>' then .error (.invalidPattern source .partOfSegment)
    else .ok (.literal (String.ofList node))

def readSegments (source : String) (known : List String) :
    List (List Char) → Except Error (List Segment)
  | [] => .ok []
  | node :: rest => do
    let segment ← readSegment source known node
    return segment :: (← readSegments source (known ++ segment.name?.toList) rest)

def parse (source : String) : Except Error Pattern :=
  let cs := source.toList
  if cs.head? = some '/' then do
    return ⟨source, ← readSegments source [] (nodes cs), endsInSlash cs⟩
  else .error (.invalidPattern source .noLeadingSlash)

/-- What a part of a path, already decoded, captures of a segment. -/
def matchSegment? (text : String) : Segment → Option Vars
  | .literal expected => if text = expected then some [] else none
  | .placeholder name type => (type.convert? text).map fun value => [(name, value)]

/-- The captures of segment after segment; there have to be as many parts. -/
def matchNodes? : List Segment → List (List Char) → Option Vars
  | [], [] => some []
  | segment :: segments, node :: nodes => do
    let text ← Text.percentDecodeText? (String.ofList node)
    let captured ← matchSegment? text segment
    return captured ++ (← matchNodes? segments nodes)
  | _, _ => none

/-- The values that a path has for the placeholders. With `strict` it has to agree with the pattern
on ending in a slash. -/
def match? (p : Pattern) (path : String) (strict : Bool) : Option Vars :=
  let cs := path.toList
  if strict && endsInSlash cs ≠ p.trailingSlash then none else matchNodes? p.segments (nodes cs)

end Pattern

end WebService.Route
