import WebService.Proofs.Json.Order
import WebService.Proofs.Json.Written
import WebService.Proofs.Response.Sending
import WebService.Proofs.Response.Status
import WebService.Response.Message

/-!
Messages from their making through any number of changes: the last text, the last status and the
last value of each key are the ones that are sent, and the key of the text is kept for the text.
-/
namespace WebService

namespace Message

open Json (Value)

/-- A change of a message: a field set on the message itself, or an update, which is another
message. -/
inductive Change where
  | field (key : String) (value : Value)
  | update (text : Option String) (status : Option Nat) (fields : List (String × Value))

namespace Change

def apply : Change → Message → Message
  | field key value, m => m.field key value
  | update text status fields, m => m.update text status fields

/-- The text, the status and the fields that a change gives. -/
def text? : Change → Option String
  | field .. => none
  | update text .. => text

def fields : Change → List (String × Value)
  | field key value => [(key, value)]
  | update _ _ fields => fields

end Change

/-- The message after changes one after the other. -/
def after (m : Message) (changes : List Change) : Message := changes.foldl (fun m c => c.apply m) m

/-- The latest of some messages, and those that updates were called on. -/
structure Versions where
  latest : Message
  older : List Message

/-- A field is set on the latest message; an update makes a new one beside it. -/
def Versions.next (v : Versions) : Change → Versions
  | .field key value => { v with latest := v.latest.field key value }
  | .update text status fields => ⟨v.latest.update text status fields, v.latest :: v.older⟩

variable {m : Message} {change : Change} {changes before behind : List Change}

/-- The members of the object of a message that was given some fields and a text. -/
def members (given : List (String × Value)) (text : String) : List (String × Value) :=
  Value.arrange (given ++ [("message", .text text)])

section

variable {key text : String} {given : List (String × Value)}

end

/-! Messages as responses -/

end Message

end WebService
