import WebService.Json.Document
import WebService.Text.Quoted

/-!
Shapes of data, and reading a value by its shape. The data read has the fields of each record in
their declared order; what does not fit is reported as the first mismatch.
-/
namespace WebService.Json

/-- A machine integer type, by its name and its bounds. -/
structure IntegerType where
  name : String
  lowest : Int
  highest : Int
deriving DecidableEq, Repr

def IntegerType.unsigned (name : String) (bits : Nat) : IntegerType := ⟨name, 0, Nat.pow 2 bits - 1⟩

def IntegerType.signed (name : String) (bits : Nat) : IntegerType :=
  ⟨name, -Nat.pow 2 (bits - 1), Nat.pow 2 (bits - 1) - 1⟩

/-- A field of a record may have a default; a variant of a choice may carry values. -/
inductive Shape where
  | any
  | boolean
  | text
  | integer (type : IntegerType)
  | real
  | optional (shape : Shape)
  | list (item : Shape)
  | table (entry : Shape)
  | tuple (parts : List Shape)
  | record (name : String) (fields : List (String × Shape × Option Document))
  | choice (name : String) (variants : List (String × String × List Shape))
  | either (name : String) (alternatives : List Shape)
deriving Repr, Inhabited

/-- What stands where something else was expected. A real number is told as data write it, or else
in positional text. -/
inductive Found where
  | null
  | unit
  | boolean (value : Bool)
  | number (value : Number)
  | positional (value : WebService.Number.Binary)
  | text (value : String)
  | sequence
  | map
  | unitVariant
deriving DecidableEq, Repr

inductive Mismatch where
  | wrongType (found : Found) (expected : String)
  | wrongValue (found : Found) (expected : String)
  | wrongLength (length : Nat) (expected : String)
  | missingField (name : String)
  | duplicateField (name : String)
  | unknownVariant (name : String) (known : List String)
  | noAlternative (name : String)
deriving DecidableEq, Repr

/-- A name in the marks that messages set around names. -/
def marked (s : String) : String := "\x60" ++ s ++ "\x60"

def Found.message : Found → String
  | null => "null"
  | unit => "unit value"
  | boolean b => "boolean " ++ marked (if b then "true" else "false")
  | number (.whole i) => "integer " ++ marked (String.ofList (Number.intText i))
  | number (.real x) =>
    "floating point " ++ marked (String.ofList (Number.dataText Number.double x))
  | positional x =>
    "floating point " ++ marked (String.ofList (Number.pointedText Number.double x))
  | text s => "string " ++ Text.quoted s
  | sequence => "sequence"
  | map => "map"
  | unitVariant => "unit variant"

def oneOf : List String → String
  | [] => "there are no variants"
  | [a] => "expected " ++ marked a
  | [a, b] => "expected " ++ marked a ++ " or " ++ marked b
  | names => "expected one of " ++ ", ".intercalate (names.map marked)

def Mismatch.message : Mismatch → String
  | wrongType found expected => "invalid type: " ++ found.message ++ ", expected " ++ expected
  | wrongValue found expected => "invalid value: " ++ found.message ++ ", expected " ++ expected
  | wrongLength length expected =>
    "invalid length " ++ toString length ++ ", expected " ++ expected
  | missingField name => "missing field " ++ marked name
  | duplicateField name => "duplicate field " ++ marked name
  | unknownVariant name known => "unknown variant " ++ marked name ++ ", " ++ oneOf known
  | noAlternative name => "data did not match any variant of untagged enum " ++ name

def Value.found : Value → Found
  | null => .null
  | boolean b => .boolean b
  | number n => .number n
  | text s => .text s
  | list _ => .sequence
  | object _ => .map

/-- How a count of elements is named. -/
def elementCount (n : Nat) : String := if n = 1 then "1 element" else toString n ++ " elements"

namespace Shape

def isOptional : Shape → Bool
  | optional _ => true
  | _ => false

/-- The value of a field that a record in member form leaves out. -/
def absent (name : String) (shape : Shape) (fallback : Option Document) :
    Except Mismatch Document :=
  match fallback with
  | some document => .ok document
  | none => if shape.isOptional then .ok .null else .error (.missingField name)

/-- The fields in declared order, from those found and the defaults of the others. -/
def complete (found : List (String × Document)) :
    List (String × Shape × Option Document) → Except Mismatch (List (String × Document))
  | [] => .ok []
  | (name, shape, fallback) :: rest => do
    let value ← match found.lookup name with
      | some document => pure document
      | none => absent name shape fallback
    return (name, value) :: (← complete found rest)

mutual

/-- The data that a value is when it has the shape. -/
def read : Shape → Value → Except Mismatch Document
  | any, v => .ok v.toDocument
  | boolean, v =>
    match v with
    | .boolean b => .ok (.boolean b)
    | other => .error (.wrongType other.found "a boolean")
  | text, v =>
    match v with
    | .text s => .ok (.text s)
    | other => .error (.wrongType other.found "a string")
  | integer type, v =>
    match v with
    | .number (.whole i) =>
      if type.lowest ≤ i && i ≤ type.highest then .ok (.number (.whole i))
      else .error (.wrongValue (.number (.whole i)) type.name)
    | other => .error (.wrongType other.found type.name)
  | real, v =>
    match v with
    | .number (.real x) => .ok (.number (.real x))
    | .number (.whole i) => .ok (.number (.real (Number.double.ofInt i)))
    | other => .error (.wrongType other.found "f64")
  | optional shape, v =>
    match v with
    | .null => .ok .null
    | other => shape.read other
  | list item, v =>
    match v with
    | .list items => do return .list (← items.mapM fun v => item.read v)
    | other => .error (.wrongType other.found "a sequence")
  | table entry, v =>
    match v with
    | .object members => do
      return .record (← members.mapM fun (key, v) => do return (key, ← entry.read v))
    | other => .error (.wrongType other.found "a map")
  | tuple parts, v =>
    let expected := "a tuple of size " ++ toString parts.length
    match v with
    | .list items => do return .list (← readParts expected items.length 0 parts items)
    | other => .error (.wrongType other.found expected)
  | record name fields, v =>
    let expected := "struct " ++ name
    match v with
    | .object members => do
      let found ← members.foldlM (fun found (key, v) =>
        if (found.lookup key).isSome then .error (.duplicateField key)
        else match readField fields key v with
          | some read => do return (key, ← read) :: found
          | none => .ok found) []
      return .record (← complete found fields)
    | .list items => do
      return .record (← readFields (expected ++ " with " ++ elementCount fields.length)
        items.length 0 fields items)
    | other => .error (.wrongType other.found expected)
  | choice name variants, v =>
    match v with
    | .text variant => readVariant name (variants.map (·.1)) variant none variants
    | .object [(variant, content)] =>
      readVariant name (variants.map (·.1)) variant (some content) variants
    | .object _ => .error (.wrongValue .map "map with a single key")
    | other => .error (.wrongType other.found "string or map")
  | either name alternatives, v =>
    match readFirst alternatives v with
    | some document => .ok document
    | none => .error (.noAlternative name)

/-- Parts in their order; too few are reported by their number, and so are too many. -/
def readParts (expected : String) (length index : Nat) :
    List Shape → List Value → Except Mismatch (List Document)
  | [], [] => .ok []
  | [], _ :: _ => .error (.wrongLength length "fewer elements in array")
  | _ :: _, [] => .error (.wrongLength index expected)
  | part :: parts, v :: values => do
    let document ← part.read v
    return document :: (← readParts expected length (index + 1) parts values)

/-- A record in list form: fields by position, where defaults make up for missing ones. -/
def readFields (expected : String) (length index : Nat) :
    List (String × Shape × Option Document) → List Value →
      Except Mismatch (List (String × Document))
  | [], [] => .ok []
  | [], _ :: _ => .error (.wrongLength length "fewer elements in array")
  | (name, _, some document) :: fields, [] => do
    return (name, document) :: (← readFields expected length (index + 1) fields [])
  | (_, _, none) :: _, [] => .error (.wrongLength index expected)
  | (name, shape, _) :: fields, v :: values => do
    let document ← shape.read v
    return (name, document) :: (← readFields expected length (index + 1) fields values)

/-- A member of a record in member form, if the record has a field of that name. -/
def readField : List (String × Shape × Option Document) → String → Value →
    Option (Except Mismatch Document)
  | [], _, _ => none
  | (name, shape, _) :: rest, key, v =>
    if name = key then some (shape.read v) else readField rest key v

/-- A variant by name, alone or with the values it carries. -/
def readVariant (type : String) (known : List String) (variant : String) (content : Option Value) :
    List (String × String × List Shape) → Except Mismatch Document
  | [] => .error (.unknownVariant variant known)
  | (name, title, parts) :: rest =>
    if name = variant then
      let expected := "tuple variant " ++ type ++ "::" ++ title
      match parts, content with
      | [], none | [], some .null => .ok (.text name)
      | [], some other => .error (.wrongType other.found "unit")
      | _ :: _, none => .error (.wrongType .unitVariant "tuple variant")
      | _ :: _, some (.list []) => .error (.wrongType .null expected)
      | _ :: _, some (.list items) => do
        let values ← readParts (expected ++ " with " ++ elementCount parts.length)
          items.length 0 parts items
        return .record [(name, .list values)]
      | _ :: _, some other => .error (.wrongType other.found "tuple variant")
    else readVariant type known variant content rest

/-- What the first alternative that fits reads. -/
def readFirst : List Shape → Value → Option Document
  | [], _ => none
  | shape :: rest, v =>
    match shape.read v with
    | .ok document => some document
    | .error _ => readFirst rest v

end

end Shape

end WebService.Json
