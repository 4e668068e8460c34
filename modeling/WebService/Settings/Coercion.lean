import WebService.Number.Reading
import WebService.Settings.Setting
import WebService.Text.Lowercase

/-!
Taking settings for what the configuration needs. Flags, numbers and texts stand for one another
where that makes sense; data of other shapes must have exactly its shape.
-/
namespace WebService.Settings

open Json (Document Shape)

namespace Scalar

/-- A scalar in the words of a record that it was taken for. -/
def found : Scalar → Json.Found
  | null => .unit
  | boolean b => .boolean b
  | integer i => .number (.whole i)
  | real x => .positional x
  | text s => .text s

end Scalar

namespace Setting

/-- What a setting is where a scalar of another type was expected. -/
def found : Setting → Found
  | scalar _ .null => .unit
  | scalar _ (.boolean b) => .boolean b
  | scalar _ (.integer i) => .signed i
  | scalar _ (.real x) => .real x
  | scalar _ (.text s) => .text s
  | list .. => .sequence
  | table .. => .map

def isNull : Setting → Bool
  | scalar _ .null => true
  | _ => false

def refused {α : Type} (s : Setting) (expected : String) : Except Fault α :=
  .error (.wrongType s.found expected "" s.layer)

def trueWords : List String := ["true", "on", "yes"]

def falseWords : List String := ["false", "off", "no"]

/-- Numbers are true unless they are zero. -/
def toFlag (s : Setting) : Except Fault Bool :=
  match s with
  | scalar _ (.boolean b) => .ok b
  | scalar _ (.integer i) => .ok (i ≠ 0)
  | scalar _ (.real x) => .ok !x.isZero
  | scalar layer (.text t) =>
    let word := Text.lower t
    if (trueWords ++ ["1"]).contains word then .ok true
    else if (falseWords ++ ["0"]).contains word then .ok false
    else .error (.wrongType (.text word) "a boolean" "" layer)
  | other => other.refused "a boolean"

/-- The nearest natural number of 64 bits. -/
def nearest : Number.Binary → Nat
  | .nan _ => 0
  | .infinite negative => if negative then 0 else Number.maxUInt64
  | .finite negative mantissa exponent =>
    min (Number.Binary.roundAway negative mantissa exponent).toNat Number.maxUInt64

/-- A natural number of 64 bits. -/
def toNat (s : Setting) : Except Fault Nat :=
  match s with
  | scalar _ (.integer i) =>
    if i < 0 then s.refused "an unsigned 64 bit or less integer" else .ok i.toNat
  | scalar _ (.boolean b) => .ok b.toNat
  | scalar _ (.real x) => .ok (nearest x)
  | scalar _ (.text t) =>
    let word := Text.lower t
    if trueWords.contains word then .ok 1
    else if falseWords.contains word then .ok 0
    else match Number.readUInt64 t.toList with
      | some n => .ok n
      | none => s.refused "an integer"
  | other => other.refused "an integer"

/-- A natural number of fewer bits; where it stands does not matter if it is too large. -/
def toNatBelow (bits : Nat) (s : Setting) : Except Fault Nat := do
  let n ← s.toNat
  if n < Nat.pow 2 bits then return n
  else .error (.wrongType (.unsigned n) ("an unsigned " ++ toString bits ++ " bit integer") "" none)

def toText (s : Setting) : Except Fault String :=
  match s with
  | scalar _ (.text t) => .ok t
  | scalar _ (.boolean b) => .ok (if b then "true" else "false")
  | scalar _ (.integer i) => .ok (String.ofList (Number.intText i))
  | scalar _ (.real x) => .ok (String.ofList (Number.plainText Number.double x))
  | other => other.refused "a string"

/-- Data of exactly its shape. -/
def readExactly (shape : Shape) (s : Setting) : Except Fault Document :=
  match shape.read s.toValue with
  | .ok document => .ok document
  | .error mismatch => .error (.mismatch mismatch)

/-- A fault of what stands under `step`. -/
def within {α : Type} (step : String) : Except Fault α → Except Fault α
  | .ok a => .ok a
  | .error fault => .error (fault.inside step)

/-- The value of a field that is left out. -/
def absent (name : String) (shape : Shape) (fallback : Option Document) : Except Fault Document :=
  match Shape.absent name shape fallback with
  | .ok document => .ok document
  | .error mismatch => .error (.mismatch mismatch)

mutual

/-- The data that a setting stands for where the shape is expected. -/
def read : Shape → Setting → Except Fault Document
  | .boolean, s => do return .boolean (← s.toFlag)
  | .integer type, s => do return .ofNat (← s.toNatBelow (Nat.log2 (type.highest + 1).toNat))
  | .text, s => do return .text (← s.toText)
  | .optional shape, s => if s.isNull then .ok .null else read shape s
  | .record name fields, s =>
    match s with
    | table _ entries => do return .record (← readNamed entries fields)
    | list _ items => do return .record (← readPlaced 0 items fields)
    | scalar _ value => .error (.mismatch (.wrongType value.found ("struct " ++ name)))
  | shape, s => s.readExactly shape

/-- The fields of a record from the entries of a table. -/
def readNamed (entries : List (String × Setting)) :
    List (String × Shape × Option Document) → Except Fault (List (String × Document))
  | [] => .ok []
  | (name, shape, fallback) :: fields => do
    let document ← match entries.lookup name with
      | some s => within name (read shape s)
      | none => absent name shape fallback
    return (name, document) :: (← readNamed entries fields)

/-- The fields of a record from the items of a list, by their positions. -/
def readPlaced (index : Nat) (items : List Setting) :
    List (String × Shape × Option Document) → Except Fault (List (String × Document))
  | [] => .ok []
  | (name, shape, fallback) :: fields => do
    let document ← match items[index]? with
      | some s => within ("[" ++ toString index ++ "]") (read shape s)
      | none => absent name shape fallback
    return (name, document) :: (← readPlaced (index + 1) items fields)

end

end Setting

end WebService.Settings
