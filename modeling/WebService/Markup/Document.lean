import WebService.Markup.Event
import WebService.Text.Utf8

/-!
The check that a text is one document: a single root element, and nothing but white space, comments
and declarations around it.
-/
namespace WebService.Markup

/-- Why an element or a text is not sent as markup. -/
inductive Error where
  | invalidName (name : String)
  | voidWithChildren (name : String)
  | textOutside
  | dataOutside
  | malformed (position : Nat) (cause : Cause)
  | noRoot
  | manyRoots
  | openElement
deriving DecidableEq, Repr

def Error.message : Error → String
  | invalidName name => "invalid XML name: '" ++ name ++ "'"
  | voidWithChildren name => "void element <" ++ name ++ "> cannot have children"
  | textOutside => "text outside the root element"
  | dataOutside => "CDATA outside the root element"
  | malformed position cause =>
    "malformed XML at position " ++ toString position ++ ": " ++ cause.message
  | noRoot => "document has no root element"
  | manyRoots => "document has more than one root element"
  | openElement => "document ends inside an open element"

/-- ASCII white space, as it may stand around the root element. -/
def isOuterSpace (c : Char) : Bool := isSpace c || c = '\x0c'

/-- How many elements are open, and how many roots there were. -/
structure Outline where
  depth : Nat
  roots : Nat
deriving DecidableEq, Repr

namespace Outline

/-- The outline after an event, unless the event must not stand outside the root. -/
def step (o : Outline) : Event → Except Error Outline
  | .start _ => .ok ⟨o.depth + 1, if o.depth = 0 then o.roots + 1 else o.roots⟩
  | .finish _ => .ok { o with depth := o.depth - 1 }
  | .empty _ => .ok { o with roots := if o.depth = 0 then o.roots + 1 else o.roots }
  | .text content =>
    if o.depth = 0 && !content.all isOuterSpace then .error .textOutside else .ok o
  | .data _ => if o.depth = 0 then .error .dataOutside else .ok o
  | _ => .ok o

/-- The verdict at the end of the text. -/
def finish (o : Outline) : Except Error Unit :=
  if o.depth ≠ 0 then .error .openElement
  else if o.roots = 0 then .error .noRoot
  else if o.roots = 1 then .ok ()
  else .error .manyRoots

end Outline

/-- Follows the events of a source; each takes text away, so the length of it is enough `fuel`. -/
def follow (size : Nat) : Nat → Outline → Source → Except Error Unit
  | 0, outline, _ => outline.finish
  | fuel + 1, outline, source =>
    match source.next with
    | .error fault =>
      .error (.malformed (size - Text.octetCount fault.rest) fault.cause)
    | .ok none => outline.finish
    | .ok (some (event, source)) => do follow size fuel (← outline.step event) source

/-- Checks that a text is a document. -/
def checkDocument (s : String) : Except Error Unit :=
  let source := Source.ofText s.toList
  follow (Text.octetCount source.rest) (source.rest.length + 1) ⟨0, 0⟩ source

/-- The text itself, if it is a document. -/
def documentText (s : String) : Except Error String := do
  checkDocument s
  return s

end WebService.Markup
