import WebService.Json.Value

/-!
Values whose texts are safe inside HTML: the five special characters become entities. Keys stay.
-/
namespace WebService.Json

def entityOf (c : Char) : List Char :=
  if c = '&' then "&amp;".toList
  else if c = '<' then "&lt;".toList
  else if c = '>' then "&gt;".toList
  else if c = '"' then "&quot;".toList
  else if c = '\'' then "&#x27;".toList
  else [c]

def escapeHtml (s : String) : String := String.ofList (s.toList.flatMap entityOf)

namespace Value

mutual

/-- Every text value escaped, at any depth. -/
def escaped : Value → Value
  | text s => text (escapeHtml s)
  | list items => list (escapedItems items)
  | object members => object (escapedMembers members)
  | other => other

def escapedItems : List Value → List Value
  | [] => []
  | item :: items => item.escaped :: escapedItems items

def escapedMembers : List (String × Value) → List (String × Value)
  | [] => []
  | (key, value) :: rest => (key, value.escaped) :: escapedMembers rest

end

end Value

end WebService.Json
