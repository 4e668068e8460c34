import WebService.Response.Build

/-!
Short answers in JSON: a message with its status and any number of further fields.
-/
namespace WebService

/-- The fields are in key order, and none is there twice. -/
structure Message where
  text : String
  status : Nat
  fields : List (String × Json.Value)
deriving Repr, Inhabited

namespace Message

def new (text : String) (status : Nat) : Message := ⟨text, status, []⟩

def field (m : Message) (key : String) (value : Json.Value) : Message :=
  { m with fields := Json.Value.insert key value m.fields }

/-- The object of the fields, in which the message has the last word on its own key. -/
def toJson (m : Message) : Json.Value :=
  .object (Json.Value.insert "message" (.text m.text) m.fields)

/-- The message with further fields and, where given, another text and status. -/
def update (m : Message) (text : Option String) (status : Option Nat)
    (fields : List (String × Json.Value)) : Message :=
  fields.foldl (fun m (key, value) => m.field key value)
    ⟨text.getD m.text, status.getD m.status, m.fields⟩

def toResponse (m : Message) : Except Error Response := do
  (← Response.json m.toJson.toDocument).withStatus m.status

end Message

end WebService
