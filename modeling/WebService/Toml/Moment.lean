import WebService.Toml.Table
import WebService.Toml.Time

/-!
Tables in TOML documents that tell a date or a time, and stand for it.
-/
namespace WebService.Toml

/-- A table whose first key is this one tells a date or a time by the text under it. -/
def momentKey : String := "$__toml_private_datetime"

mutual

/-- The node with the tables in it that tell a date or a time taken for that. -/
def Node.withMoments? : Node → Option Node
  | .list items => do return .list (← nodesWithMoments? items)
  | .table source entries => tableWithMoments? source entries
  | .tables earlier last => do
    return .list ((← tablesWithMoments? earlier) ++ [← tableWithMoments? .header last])
  | node => some node

def nodesWithMoments? : List Node → Option (List Node)
  | [] => some []
  | node :: nodes => do return (← node.withMoments?) :: (← nodesWithMoments? nodes)

def tablesWithMoments? : List (List (String × Node)) → Option (List Node)
  | [] => some []
  | entries :: rest => do
    return (← tableWithMoments? .header entries) :: (← tablesWithMoments? rest)

def tableWithMoments? (source : Source) : List (String × Node) → Option Node
  | [] => some (.table source [])
  | (key, node) :: rest =>
    if key = momentKey then
      match node with
      | .text s => (momentText? s).map .moment
      | _ => none
    else do
      return .table source ((key, ← node.withMoments?) :: (← entriesWithMoments? rest))

def entriesWithMoments? : List (String × Node) → Option (List (String × Node))
  | [] => some []
  | (key, node) :: rest => do return (key, ← node.withMoments?) :: (← entriesWithMoments? rest)

end

end WebService.Toml
