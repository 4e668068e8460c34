import WebService.Number.Binary

/-!
Tables as TOML documents build them up, one statement after the other.
-/
namespace WebService.Toml

/-- How a table came about: as a value in braces, by its own header, by the header of a table inside
it, or by the path of a key. -/
inductive Source where
  | braces
  | header
  | implied
  | dotted
deriving DecidableEq, Repr, Inhabited

/-- What a key stands for; a date or a time is its text in standard form. An array of tables is
never empty, and its last table is the one that later statements refer to. -/
inductive Node where
  | boolean (value : Bool)
  | integer (value : Int)
  | real (value : Number.Binary)
  | text (value : String)
  | moment (text : String)
  | list (items : List Node)
  | table (source : Source) (entries : List (String × Node))
  | tables (earlier : List (List (String × Node))) (last : List (String × Node))
deriving Repr, Inhabited, BEq

abbrev Entries := List (String × Node)

namespace Entries

/-- The entry of a key replaced by what `change` makes of it, or added behind the others. -/
def update? (key : String) (change : Option Node → Option Node) : Entries → Option Entries
  | [] => (change none).map fun node => [(key, node)]
  | (k, node) :: rest =>
    if k = key then (change (some node)).map fun node => (k, node) :: rest
    else (update? key change rest).map ((k, node) :: ·)

/-- An entry whose key is not in use. -/
def insert? (key : String) (node : Node) : Entries → Option Entries :=
  update? key fun
    | none => some node
    | some _ => none

/-- Changes the table at the end of a path, which arrays of tables lead through their last one. What
is missing on the way is made as `fresh`; the path of a key leads through no table with a header. -/
def changeAt? (fresh : Source) (change : Source → Entries → Option Entries) :
    List String → Source → Entries → Option Entries
  | [], source, entries => change source entries
  | key :: path, _, entries =>
    entries.update? key fun
      | none => (changeAt? fresh change path fresh []).map (.table fresh)
      | some (.table source inner) =>
        if source = .braces || (fresh = .dotted && source = .header) then none
        else (changeAt? fresh change path source inner).map (.table source)
      | some (.tables earlier last) =>
        (changeAt? fresh change path .header last).map (.tables earlier)
      | some _ => none

/-- A key and its value put at the end of a path. A table that the path leads to may only have come
about by such a path. -/
def assign? (path : List String) (key : String) (value : Node) (source : Source)
    (entries : Entries) : Option Entries :=
  changeAt? .dotted (fun source entries =>
    if (source == .dotted) == path.isEmpty then none
    else entries.insert? key value) path source entries

/-- The table of a header, which may so far be an implied one. -/
def open? (path : List String) (key : String) (entries : Entries) : Option Entries :=
  changeAt? .implied (fun _ entries => entries.update? key fun
    | none => some (.table .header [])
    | some (.table .implied inner) => some (.table .header inner)
    | some _ => none) path .header entries

/-- One more table in the array of a header. -/
def append? (path : List String) (key : String) (entries : Entries) : Option Entries :=
  changeAt? .implied (fun _ entries => entries.update? key fun
    | none => some (.tables [] [])
    | some (.tables earlier last) => some (.tables (earlier ++ [last]) [])
    | some _ => none) path .header entries

/-- The entries of a table in braces. -/
def ofPairs? (pairs : List ((List String × String) × Node)) : Option Entries :=
  pairs.foldlM (fun entries ((path, key), value) => assign? path key value .header entries) []

end Entries

/-- A statement of a document: a key with its value, or the header of the table that the keys after
it belong to. -/
inductive Statement where
  | assign (path : List String) (key : String) (value : Node)
  | table (path : List String) (key : String)
  | element (path : List String) (key : String)
deriving Repr, Inhabited, BEq

/-- The entries of a document so far, and the path to the table that is open. -/
structure Draft where
  entries : Entries := []
  opened : List String := []
deriving Repr, Inhabited, BEq

namespace Draft

def extend? (d : Draft) : Statement → Option Draft
  | .assign path key value => do
    let entries ← d.entries.changeAt? .implied (Entries.assign? path key value) d.opened .header
    return { d with entries }
  | .table path key => do return ⟨← d.entries.open? path key, path ++ [key]⟩
  | .element path key => do return ⟨← d.entries.append? path key, path ++ [key]⟩

end Draft

/-- The entries that the statements of a document make, if none contradicts those before it. -/
def Entries.ofStatements? (statements : List Statement) : Option Entries :=
  (statements.foldlM Draft.extend? {}).map (·.entries)

end WebService.Toml
