import WebService.Number.Binary

/-!
JSON values. An object keeps its members in the order in which they stand; `Value.sorted` orders
them by key and keeps the last of several members with one key.
-/
namespace WebService.Json

/-- A whole number, or a floating-point one. -/
inductive Number where
  | whole (value : Int)
  | real (value : Number.Binary)
deriving DecidableEq, Repr, Inhabited

inductive Value where
  | null
  | boolean (value : Bool)
  | number (value : Number)
  | text (value : String)
  | list (items : List Value)
  | object (members : List (String × Value))
deriving Repr, Inhabited, BEq

namespace Value

/-- A member put in its place by key; it takes over the place of an older one with its key. -/
def insert (key : String) (value : Value) : List (String × Value) → List (String × Value)
  | [] => [(key, value)]
  | (k, v) :: rest =>
    if key < k then (key, value) :: (k, v) :: rest
    else if key = k then (key, value) :: rest
    else (k, v) :: insert key value rest

/-- Members in key order, where of several with one key the last counts. -/
def arrange (members : List (String × Value)) : List (String × Value) :=
  members.foldl (fun sorted (key, value) => insert key value sorted) []

mutual

/-- Every object in key order. -/
def sorted : Value → Value
  | list items => list (sortedItems items)
  | object members => object (arrange (sortedMembers members))
  | other => other

def sortedItems : List Value → List Value
  | [] => []
  | item :: items => item.sorted :: sortedItems items

def sortedMembers : List (String × Value) → List (String × Value)
  | [] => []
  | (key, value) :: rest => (key, value.sorted) :: sortedMembers rest

end

def ofNat (n : Nat) : Value := number (.whole n)

/-- The member of an object with the given key. -/
def member? (key : String) : Value → Option Value
  | object members => (members.find? fun (k, _) => k == key).map (·.2)
  | _ => none

end Value

end WebService.Json
