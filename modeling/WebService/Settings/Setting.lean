import WebService.Number.Reading
import WebService.Settings.Fault
import WebService.Toml.Table

/-!
Settings as their sources give them. Each remembers the layer it stands in, if that has a name.
-/
namespace WebService.Settings

inductive Scalar where
  | null
  | boolean (value : Bool)
  | integer (value : Int)
  | real (value : Number.Binary)
  | text (value : String)
deriving DecidableEq, Repr, Inhabited

inductive Setting where
  | scalar (layer : Option String) (value : Scalar)
  | list (layer : Option String) (items : List Setting)
  | table (layer : Option String) (entries : List (String × Setting))
deriving Repr, Inhabited, BEq

namespace Setting

def null : Setting := scalar none .null

def empty : Setting := table none []

def layer : Setting → Option String
  | scalar layer _ | list layer _ | table layer _ => layer

/-! Tables and lists, which other settings turn into as empty ones -/

def tableOf : Setting → Option String × List (String × Setting)
  | table layer entries => (layer, entries)
  | _ => (none, [])

def listOf : Setting → Option String × List Setting
  | list layer items => (layer, items)
  | _ => (none, [])

/-- The entries with the one of a key replaced by what `change` makes of it, or added behind. -/
def alterEntry (key : String) (change : Option Setting → Setting) :
    List (String × Setting) → List (String × Setting)
  | [] => [(key, change none)]
  | (k, s) :: rest =>
    if k = key then (k, change (some s)) :: rest else (k, s) :: alterEntry key change rest

/-- The table with the entry of a key changed. -/
def alter (key : String) (change : Option Setting → Setting) (s : Setting) : Setting :=
  table s.tableOf.1 (alterEntry key change s.tableOf.2)

/-- An index counted from the start, or from the end if it is negative. -/
def position (index : Int) (length : Nat) : Nat :=
  if index < 0 then length - index.natAbs else index.natAbs

/-- The list with one item changed, made longer if it is too short. -/
def alterItem (index : Int) (change : Setting → Setting) (s : Setting) : Setting :=
  let items := s.listOf.2
  let place := position index items.length
  list s.listOf.1 ((items ++ List.replicate (place + 1 - items.length) null).modify place change)

/-! Settings from documents -/

mutual

/-- The setting that a node of a TOML document is. -/
def ofNode (layer : Option String) : Toml.Node → Setting
  | .boolean b => scalar layer (.boolean b)
  | .integer i => scalar layer (.integer i)
  | .real x => scalar layer (.real x)
  | .text s | .moment s => scalar layer (.text s)
  | .list items => list layer (ofNodes layer items)
  | .table _ entries => table layer (ofEntries layer entries)
  | .tables earlier last =>
    list layer (ofTables layer earlier ++ [table layer (ofEntries layer last)])

def ofNodes (layer : Option String) : List Toml.Node → List Setting
  | [] => []
  | node :: nodes => ofNode layer node :: ofNodes layer nodes

def ofEntries (layer : Option String) : List (String × Toml.Node) → List (String × Setting)
  | [] => []
  | (key, node) :: rest => (key, ofNode layer node) :: ofEntries layer rest

def ofTables (layer : Option String) : List (List (String × Toml.Node)) → List Setting
  | [] => []
  | entries :: rest => table layer (ofEntries layer entries) :: ofTables layer rest

end

/-- A number as a setting, where an integer beyond 64 bits is a floating-point number. -/
def ofNumber : Json.Number → Scalar
  | .whole i =>
    if Number.minInt64 ≤ i && i ≤ Number.maxInt64 then .integer i else .real (Number.double.ofInt i)
  | .real x => .real x

mutual

/-- The setting that a JSON value is. -/
def ofValue (layer : Option String) : Json.Value → Setting
  | .null => scalar layer .null
  | .boolean b => scalar layer (.boolean b)
  | .number n => scalar layer (ofNumber n)
  | .text s => scalar layer (.text s)
  | .list items => list layer (ofItems layer items)
  | .object members => table layer (ofMembers layer members)

def ofItems (layer : Option String) : List Json.Value → List Setting
  | [] => []
  | item :: items => ofValue layer item :: ofItems layer items

def ofMembers (layer : Option String) : List (String × Json.Value) → List (String × Setting)
  | [] => []
  | (key, value) :: rest => (key, ofValue layer value) :: ofMembers layer rest

end

end Setting

/-! Settings as JSON values -/

def Scalar.toValue : Scalar → Json.Value
  | null => .null
  | boolean b => .boolean b
  | integer i => .number (.whole i)
  | real x => .number (.real x)
  | text s => .text s

namespace Setting

mutual

def toValue : Setting → Json.Value
  | scalar _ value => value.toValue
  | list _ items => .list (toItems items)
  | table _ entries => .object (toMembers entries)

def toItems : List Setting → List Json.Value
  | [] => []
  | item :: items => item.toValue :: toItems items

def toMembers : List (String × Setting) → List (String × Json.Value)
  | [] => []
  | (key, s) :: rest => (key, s.toValue) :: toMembers rest

end

end Setting

end WebService.Settings
