import WebService.Json.Value
import WebService.Number.Layout

/-!
Writing values as JSON text, on one line or with an indented line for each item and member.
-/
namespace WebService.Json

/-- Spaces per level of indentation, or none for text on one line. -/
abbrev Layout := Option Nat

def hexPadded (n : Nat) : List Char :=
  let ds := Nat.toDigits 16 n
  List.replicate (4 - ds.length) '0' ++ ds

/-- Quotes, backslashes and controls are written as escapes. -/
def escapeChar (c : Char) : List Char :=
  if c = '"' then ['\\', '"']
  else if c = '\\' then ['\\', '\\']
  else if c = '\x08' then ['\\', 'b']
  else if c = '\x0c' then ['\\', 'f']
  else if c = '\n' then ['\\', 'n']
  else if c = '\r' then ['\\', 'r']
  else if c = '\t' then ['\\', 't']
  else if c.toNat < 0x20 then '\\' :: 'u' :: hexPadded c.toNat
  else [c]

def writeText (s : String) : List Char := '"' :: (s.toList.flatMap escapeChar ++ ['"'])

def writeNumber : Number → List Char
  | .whole i => Number.intText i
  | .real x => Number.dataText Number.double x

/-- A line break and the indentation of a level. -/
def lineBreak (layout : Layout) (level : Nat) : List Char :=
  match layout with
  | some width => '\n' :: List.replicate (width * level) ' '
  | none => []

def keyMark (layout : Layout) : List Char := if layout.isSome then [':', ' '] else [':']

mutual

/-- The text of a value that stands at the given level. -/
def write (layout : Layout) (level : Nat) : Value → List Char
  | .null => "null".toList
  | .boolean b => if b then "true".toList else "false".toList
  | .number n => writeNumber n
  | .text s => writeText s
  | .list [] => ['[', ']']
  | .list (item :: items) =>
    '[' :: (lineBreak layout (level + 1) ++ write layout (level + 1) item
      ++ writeItems layout (level + 1) items ++ lineBreak layout level ++ [']'])
  | .object [] => ['\x7b', '\x7d']
  | .object ((key, value) :: rest) =>
    '\x7b' :: (lineBreak layout (level + 1) ++ writeText key ++ keyMark layout
      ++ write layout (level + 1) value ++ writeMembers layout (level + 1) rest
      ++ lineBreak layout level ++ ['\x7d'])

def writeItems (layout : Layout) (level : Nat) : List Value → List Char
  | [] => []
  | item :: items =>
    ',' :: (lineBreak layout level ++ write layout level item ++ writeItems layout level items)

def writeMembers (layout : Layout) (level : Nat) : List (String × Value) → List Char
  | [] => []
  | (key, value) :: rest =>
    ',' :: (lineBreak layout level ++ writeText key ++ keyMark layout
      ++ write layout level value ++ writeMembers layout level rest)

end

/-- The JSON text of a value. -/
def Value.render (v : Value) (layout : Layout) : String := String.ofList (write layout 0 v)

/-- The JSON text of a value on one line. -/
def Value.compact (v : Value) : String := v.render none

end WebService.Json
