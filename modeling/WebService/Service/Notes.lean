import WebService.Paging
import WebService.Request.Body
import WebService.Response.Message
import WebService.Service.Application

/-!
A small service: factorials, a greeting, and notes that are kept in the order in which they came.
-/
namespace WebService.Notes

/-- The texts of the notes; a note's number is its place. -/
abbrev Store := List String

/-! Answers that need no notes -/

/-- The largest number whose factorial fits in 63 bits. -/
def maxFactorial : Nat := 20

def factorialOf : Nat → Nat
  | 0 => 1
  | n + 1 => (n + 1) * factorialOf n

def factorial (request : Request) : Outcome Response :=
  let value := (request.varInt? "value").getD 0
  if value < 0 || (maxFactorial : Int) < value then
    .reject ("Value must be between 0 and " ++ toString maxFactorial ++ ", got " ++ toString value
      ++ ".")
  else .ok (Response.ok (toString value ++ "! = " ++ toString (factorialOf value.toNat)))

def version : String := "0.3.0"

def status (_ : Request) : Outcome Response :=
  .ofError ((Message.new "Service is running." 200).field "version" (.text version)).toResponse

/-- A greeting of the name given, or of the world. -/
def greeting (request : Request) : Outcome Response :=
  let name := (request.arg? "name").getD "world"
  let document := ((Markup.Element.named "greeting").attr "lang" "en").child
    ((Markup.Element.named "text").text ("Hello " ++ name ++ "."))
  .ofError (Response.xmlElement document)

/-! Notes -/

/-- The page of the notes that is asked for. -/
def list (store : Store) (request : Request) : Outcome Response :=
  ({} : Paging.Browser).respond request (store.map .text)

def newNoteShape : Json.Shape := .record "NewNote" [("text", .text, none)]

/-- The text of a note to be added. -/
def newText (request : Request) : Outcome String := do
  match ← request.json newNoteShape with
  | .record fields =>
    return match fields.lookup "text" with
      | some (.text s) => s
      | _ => ""
  | _ => return ""

/-- Adds a note behind the others. -/
def create : Handler Store := fun store request =>
  match newText request with
  | .error interruption => ⟨.error interruption, store, []⟩
  | .ok text =>
    let answer := (Message.new "Note created." 201).field "id" (.ofNat store.length)
    ⟨.ofError answer.toResponse, store ++ [text], []⟩

/-- The number of the note that a path names. -/
def noteId (request : Request) : Outcome Nat :=
  match request.varInt? "id" with
  | some (.ofNat id) => .ok id
  | _ => .error (.abort (Response.notFound "No such note."))

def noSuchNote {α : Type} (id : Nat) : Outcome α :=
  .error (.abort (Response.notFound ("No note with id " ++ toString id ++ ".")))

def get (store : Store) (request : Request) : Outcome Response := do
  let id ← noteId request
  match store[id]? with
  | some text => return Response.ok text
  | none => noSuchNote id

/-- Takes a note away; those behind it move up. -/
def delete : Handler Store := fun store request =>
  match noteId request with
  | .error interruption => ⟨.error interruption, store, []⟩
  | .ok id =>
    if id < store.length then ⟨.ok Response.noContent, store.eraseIdx id, []⟩
    else ⟨noSuchNote id, store, []⟩

def note : Resource Store :=
  { allowed := [.get, .head, .delete], get := some (.reading get), delete := some delete }

/-- The service with the settings of a configuration. -/
def application (config : Settings.Config) : Except Error (Application Store) := do
  let logging := config.logging
  let app := (Application.new config.app).withAccessLog
    (if logging.accessLog then some logging.accessLogFormat else none)
  let app ← app.route "GET" "/factorial/<int:value>" (.ofFunction factorial)
  let app ← app.route "GET" "/status" (.ofFunction status)
  let app ← app.route "GET" "/greeting.xml" (.ofFunction greeting)
  let app ← app.route "GET" "/notes" (.reading list)
  let app ← app.route "POST" "/notes" create
  app.resource "/notes/<int:id>" note

end WebService.Notes
