import WebService.Number.Reading
import WebService.Settings.Setting
import WebService.Text.Lowercase

/-!
Paths to settings, and putting settings in their places. A path such as `server.port` or `hosts[0]`
begins with a key and goes on with keys and indices.
-/
namespace WebService.Settings

inductive Step where
  | key (name : String)
  | index (position : Int)
deriving DecidableEq, Repr

structure Path where
  root : String
  steps : List Step
deriving DecidableEq, Repr

namespace Path

def isKeyChar (c : Char) : Bool := c.isAlphanum || c = ' ' || c = '_' || c = '-'

def isBlank (c : Char) : Bool := c = ' ' || c = '\t'

def readKey (cs : List Char) : Option (String × List Char) :=
  let name := cs.takeWhile isKeyChar
  if name.isEmpty then none else some (String.ofList name, cs.dropWhile isKeyChar)

/-- An index behind its opening bracket; it has a minus sign if it counts from the end. -/
def readIndex (cs : List Char) : Option (Int × List Char) := do
  let cs := cs.dropWhile isBlank
  let digits := match cs with
    | '-' :: rest => rest
    | _ => cs
  let run := digits.takeWhile Char.isDigit
  let index ← Number.readInt64 (if digits.length = cs.length then run else '-' :: run)
  match (digits.dropWhile Char.isDigit).dropWhile isBlank with
  | ']' :: rest => return (index, rest)
  | _ => none

/-- Each step takes one character or more, so the length of the text is enough `fuel`. -/
def readSteps : Nat → List Char → Option (List Step)
  | 0, _ => none
  | _ + 1, [] => some []
  | fuel + 1, '.' :: rest => do
    let (name, rest) ← readKey rest
    return .key name :: (← readSteps fuel rest)
  | fuel + 1, '[' :: rest => do
    let (index, rest) ← readIndex rest
    return .index index :: (← readSteps fuel rest)
  | _ + 1, _ => none

/-- The path that a text is; a text that is no path is a key. -/
def ofText (s : String) : Path :=
  let path : Option Path := do
    let (root, rest) ← readKey s.toList
    return ⟨root, ← readSteps (rest.length + 1) rest⟩
  path.getD ⟨s, []⟩

end Path

namespace Setting

mutual

/-- A setting put under a key, which becomes lower case. A table is merged into what is there entry
by entry, anything else takes its place. -/
def put (key : String) : Setting → Setting → Setting
  | table _ entries, root => root.alter (Text.lower key) fun old => putAll entries (old.getD empty)
  | other, root => root.alter (Text.lower key) fun _ => other

def putAll : List (String × Setting) → Setting → Setting
  | [], root => root
  | (key, s) :: rest, root => putAll rest (put key s root)

end

/-- Changes what stands at the end of some steps; what is missing on the way is made. -/
def changeAt (change : Setting → Setting) : List Step → Setting → Setting
  | [], s => change s
  | .key name :: steps, s => s.alter name fun old => changeAt change steps (old.getD null)
  | .index position :: steps, s => s.alterItem position (changeAt change steps)

/-- A setting put where a path leads. -/
def putAt (path : Path) (s root : Setting) : Setting :=
  match path.steps.getLast? with
  | none => put path.root s root
  | some last =>
    changeAt (fun parent => match last with
      | .key name => put name s parent
      | .index position => parent.alterItem position fun _ => s)
      (.key path.root :: path.steps.dropLast) root

end Setting

end WebService.Settings
