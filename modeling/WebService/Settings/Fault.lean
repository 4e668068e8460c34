import WebService.Json.Shape

/-!
Why settings cannot be used.
-/
namespace WebService.Settings

/-- What a setting is where something else was expected. -/
inductive Found where
  | boolean (value : Bool)
  | signed (value : Int)
  | unsigned (value : Nat)
  | real (value : Number.Binary)
  | text (value : String)
  | unit
  | sequence
  | map
deriving DecidableEq, Repr

def Found.message : Found → String
  | boolean b => "boolean " ++ Json.marked (if b then "true" else "false")
  | signed i => "64-bit integer " ++ Json.marked (toString i)
  | unsigned n => "64-bit unsigned integer " ++ Json.marked (toString n)
  | real x => "floating point " ++ Json.marked (String.ofList (Number.plainText Number.double x))
  | text s => "string " ++ Text.quoted s
  | unit => "unit value"
  | sequence => "sequence"
  | map => "map"

/-- A setting of the wrong type is reported with its key and with the layer it stands in, where
that has a name. -/
inductive Fault where
  | wrongType (found : Found) (expected : String) (key : String) (layer : Option String)
  | mismatch (mismatch : Json.Mismatch)
  | unreadable
deriving DecidableEq, Repr

namespace Fault

def message : Fault → String
  | wrongType found expected key layer =>
    "invalid type: " ++ found.message ++ ", expected " ++ expected
      ++ (if key.isEmpty then "" else " for key " ++ Json.marked key)
      ++ (match layer with
        | some name => " in " ++ name
        | none => "")
  | mismatch m => m.message
  | unreadable => "the document cannot be read"

/-- The fault seen from the table that has the setting at `step`. -/
def inside (step : String) : Fault → Fault
  | wrongType found expected key layer =>
    let dot := if key.isEmpty || key.startsWith "[" then "" else "."
    wrongType found expected (step ++ dot ++ key) layer
  | other => other

end Fault

end WebService.Settings
