import WebService.Json.Escaped
import WebService.Json.Writer

/-!
Data that a program hands over to be written as JSON. Records keep their declared order; mappings
may have keys that no JSON object can have, and only those cannot be written.
-/
namespace WebService.Json

inductive Document where
  | null
  | boolean (value : Bool)
  | number (value : Number)
  | text (value : String)
  | list (items : List Document)
  | record (fields : List (String × Document))
  | mapping (entries : List (Document × Document))
deriving Repr, Inhabited, BEq

/-- Why data could not be written. -/
inductive WriteError where
  | keyNotText
deriving DecidableEq, Repr

def WriteError.message : WriteError → String
  | keyNotText => "key must be a string"

/-- How data is written: the indentation, and whether texts are made safe for HTML first. -/
structure Style where
  indent : Layout := none
  escapeHtml : Bool := false
deriving DecidableEq, Repr

namespace Document

/-- The text of a mapping's key. -/
def keyText? : Document → Option String
  | text s => some s
  | boolean b => some (if b then "true" else "false")
  | number n => some (String.ofList (writeNumber n))
  | _ => none

mutual

/-- The value that stands for the data, if every key is a text. -/
def toValue : Document → Except WriteError Value
  | null => .ok .null
  | boolean b => .ok (.boolean b)
  | number (.real x) => .ok (if x.isFinite then .number (.real x) else .null)
  | number n => .ok (.number n)
  | text s => .ok (.text s)
  | list items => do return .list (← toItems items)
  | record fields => do return .object (← toMembers fields)
  | mapping entries => do return .object (← toEntries entries)

def toItems : List Document → Except WriteError (List Value)
  | [] => .ok []
  | item :: items => do
    let value ← item.toValue
    return value :: (← toItems items)

def toMembers : List (String × Document) → Except WriteError (List (String × Value))
  | [] => .ok []
  | (key, field) :: rest => do
    let value ← field.toValue
    return (key, value) :: (← toMembers rest)

def toEntries : List (Document × Document) → Except WriteError (List (String × Value))
  | [] => .ok []
  | (key, entry) :: rest => do
    let some name := key.keyText? | .error .keyNotText
    let value ← entry.toValue
    return (name, value) :: (← toEntries rest)

end

def ofNat (n : Nat) : Document := number (.whole n)

def ofOption {α : Type} (f : α → Document) : Option α → Document
  | none => null
  | some a => f a

/-- The JSON text of the data. Texts are escaped in the sorted value that stands for it. -/
def render (d : Document) (style : Style) : Except WriteError String := do
  let value ← d.toValue
  return (if style.escapeHtml then value.sorted.escaped else value).render style.indent

end Document

mutual

/-- A value as data to be written. -/
def Value.toDocument : Value → Document
  | .null => .null
  | .boolean b => .boolean b
  | .number n => .number n
  | .text s => .text s
  | .list items => .list (itemDocuments items)
  | .object members => .record (memberDocuments members)

def itemDocuments : List Value → List Document
  | [] => []
  | item :: items => item.toDocument :: itemDocuments items

def memberDocuments : List (String × Value) → List (String × Document)
  | [] => []
  | (key, value) :: rest => (key, value.toDocument) :: memberDocuments rest

end

end WebService.Json
