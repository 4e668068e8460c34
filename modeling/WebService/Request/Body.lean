import WebService.Json.Reader
import WebService.Json.Shape
import WebService.Request.Basic
import WebService.Request.Outcome

/-!
The body of a request as text and as data of a given shape.
-/
namespace WebService.Request

def text (r : Request) : Outcome String :=
  if r.body.isEmpty then .reject "No data provided."
  else match Text.ofOctets? r.body with
    | some s => .ok s
    | none => .reject "Posted data is not UTF-8 text."

/-- The JSON value that the body is. -/
def value (r : Request) : Outcome Json.Value := do
  let s ← r.text
  match Json.Value.parse s with
  | .ok v => return v
  | .error _ => .reject "Text is not valid JSON."

/-- The data that the body holds, if it has the shape. -/
def json (r : Request) (shape : Json.Shape) : Outcome Json.Document := do
  let v ← r.value
  match shape.read v with
  | .ok document => return document
  | .error mismatch => .reject ("Unexpected JSON data: " ++ mismatch.message ++ ".")

end WebService.Request
