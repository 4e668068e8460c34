import WebService.Toml.Reader

/-!
What TOML documents say, as values.
-/
namespace WebService.Toml

open Json (Value)

mutual

/-- The value that a node says; dates and times are texts. -/
def Node.toValue : Node → Value
  | .boolean b => .boolean b
  | .integer i => .number (.whole i)
  | .real x => .number (.real x)
  | .text s | .moment s => .text s
  | .list items => .list (itemValues items)
  | .table _ entries => .object (entryValues entries)
  | .tables earlier last => .list (tableValues earlier ++ [.object (entryValues last)])

def itemValues : List Node → List Value
  | [] => []
  | node :: nodes => node.toValue :: itemValues nodes

def entryValues : List (String × Node) → List (String × Value)
  | [] => []
  | (key, node) :: rest => (key, node.toValue) :: entryValues rest

def tableValues : List (List (String × Node)) → List Value
  | [] => []
  | entries :: rest => .object (entryValues entries) :: tableValues rest

end

/-- What a TOML document says. -/
def told? (text : String) : Option Value :=
  (Entries.parse? text).map fun entries => .object (entryValues entries)

end WebService.Toml
