import WebService.Markup.Writer
import WebService.Media.Extension
import WebService.Method
import WebService.Response.Basic

/-!
The ways to make a response. Each fixes the kind, the media type and the range of statuses.
-/
namespace WebService.Response

def build (kind : Kind) (status : Nat) (mimetype : String) (charset : Option String)
    (body : List UInt8) : Response :=
  ⟨kind, status, kind.range, mimetype, charset, [], body⟩

/-- A response with a text for its body. -/
def ofText (kind : Kind) (status : Nat) (mimetype text : String) : Response :=
  build kind status mimetype (some "utf-8") (Text.octets text)

/-- The kind of plain text whose statuses lie in a range. -/
def kindOf (range : StatusRange) : Kind :=
  if range = .success then .ok else if range = .fault then .error else .plainText

/-- Plain text whose status may only change within the range. -/
def plainText (message : String) (status : Nat) (range : StatusRange) : Except Error Response := do
  let status ← checkStatus status range
  return { ofText (kindOf range) status "text/plain" message with range := range }

def new (message : String) (status : Nat) : Except Error Response := plainText message status .any

def ok (message : String) : Response := ofText .ok 200 "text/plain" message

def okWithStatus (message : String) (status : Nat) : Except Error Response :=
  plainText message status .success

def error (message : String) : Response := ofText .error 400 "text/plain" message

def errorWithStatus (message : String) (status : Nat) : Except Error Response :=
  plainText message status .fault

def notFound (message : String) : Response := ofText .error 404 "text/plain" message

/-- The answer to a method that a path does not take, with those that it takes. -/
def methodNotAllowed (allowed : List Method) : Response :=
  (ofText .error 405 "text/plain" "Method not allowed.").setHeader "Allow" (Method.joined allowed)

def payloadTooLarge : Response := ofText .error 413 "text/plain" "Payload too large."

/-- An empty response without a content type. -/
def noContent : Response := build .plainText 204 "" none []

def html (markup : String) : Response := ofText .html 200 "text/html" markup

def htmlDocument (document : Markup.Element) : Except Error Response :=
  match document.toHtml with
  | .ok text => .ok (html text)
  | .error e => .error (.markup e)

/-- XML as it was written out by an element tree or found to be a document. -/
def xmlText (text : Except Markup.Error String) : Except Error Response :=
  match text with
  | .ok text => .ok (ofText .xml 200 "application/xml" text)
  | .error e => .error (.markup e)

def xmlElement (element : Markup.Element) : Except Error Response := xmlText element.toXml

def xmlSource (source : String) : Except Error Response := xmlText (Markup.documentText source)

def jsonWith (document : Json.Document) (style : Json.Style) : Except Error Response :=
  match document.render style with
  | .ok text => .ok (build .json 200 "application/json" none (Text.octets text))
  | .error e => .error (.json e)

def json (document : Json.Document) : Except Error Response := jsonWith document {}

/-- Data under the media type that it shows; a file name helps to find it. -/
def binary (data : List UInt8) (filename : Option String) : Response :=
  let r := build .binary 200 (Media.typeOf data filename) none data
  match filename with
  | some name => r.withFilename name
  | none => r

/-- The message of errors whose causes are not told. -/
def serverErrorText : String := "Internal Server Error."

/-- The response to a failure, whose causes only show while debugging. -/
def internalServerError (failure : Failure) (debug : Bool) : Response :=
  ofText .internalServerError 500 "text/plain" (if debug then failure.describe else serverErrorText)

end WebService.Response
