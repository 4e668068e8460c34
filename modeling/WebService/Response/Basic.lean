import WebService.Digest.Sha256
import WebService.Error
import WebService.Header.Field
import WebService.Text.Split
import WebService.Text.Utf8

/-!
Responses: a status within a declared range, a media type, headers of which none is there twice,
and a body.
-/
namespace WebService

inductive Response.Kind where
  | plainText
  | ok
  | error
  | html
  | xml
  | json
  | binary
  | internalServerError
deriving DecidableEq, Repr, Inhabited

namespace Response.Kind

def defaultStatus : Kind → Nat
  | error => 400
  | internalServerError => 500
  | _ => 200

/-- The statuses that responses of the kind may take on, unless they declare others. -/
def range : Kind → StatusRange
  | ok => .success
  | error => .fault
  | internalServerError => ⟨500, 500⟩
  | _ => .any

end Response.Kind

/-- A response without media type is sent without a content type. -/
structure Response where
  kind : Response.Kind
  status : Nat
  range : StatusRange
  mimetype : String
  charset : Option String
  headers : List (String × String)
  body : List UInt8
deriving DecidableEq, Repr, Inhabited

namespace Response

/-! Status -/

/-- The status, if it lies in the range and is one that can be sent at all. -/
def checkStatus (status : Nat) (range : StatusRange) : Except Error Nat :=
  if range.contains status && StatusRange.any.contains status then .ok status
  else .error (.invalidStatus status range)

def withStatus (r : Response) (status : Nat) : Except Error Response := do
  return { r with status := ← checkStatus status r.range }

/-! Headers -/

/-- A header set in its place, whose name keeps its spelling, or put last if it is new. -/
def setIn (name value : String) : List (String × String) → List (String × String)
  | [] => [(name, value)]
  | (n, v) :: rest =>
    if Header.sameName n name then (n, value) :: rest else (n, v) :: setIn name value rest

/-- The headers without the first of a name. -/
def removeFrom (name : String) : List (String × String) → List (String × String)
  | [] => []
  | (n, v) :: rest => if Header.sameName n name then rest else (n, v) :: removeFrom name rest

def setHeader (r : Response) (name value : String) : Response :=
  { r with headers := setIn name value r.headers }

def removeHeader (r : Response) (name : String) : Response :=
  { r with headers := removeFrom name r.headers }

def header? (r : Response) (name : String) : Option String :=
  (r.headers.find? fun (n, _) => Header.sameName n name).map (·.2)

/-- The value of the first header of a name, if there is one, and the response without it. -/
def takeHeader (r : Response) (name : String) : Option String × Response :=
  match r.headers.findIdx? fun (n, _) => Header.sameName n name with
  | some i => (r.headers[i]?.map (·.2), { r with headers := r.headers.eraseIdx i })
  | none => (none, r)

/-! Content type -/

def withCharset (r : Response) (charset : Option String) : Response :=
  { r with charset := charset }

/-- Whether a media type already names a character set. -/
def namesCharset (mimetype : String) : Bool :=
  (Text.findAfter? "charset=".toList mimetype.toList).isSome

/-- The content type, which is empty for a response without media type. -/
def contentType (r : Response) : String :=
  if r.mimetype.isEmpty then ""
  else match r.charset with
    | some charset =>
      if namesCharset r.mimetype then r.mimetype else r.mimetype ++ "; charset=" ++ charset
    | none => r.mimetype

/-! File names -/

/-- Backslashes and quotes are written behind a backslash. -/
def escapeName (name : List Char) : List Char :=
  name.flatMap fun c => if c = '\\' || c = '"' then ['\\', c] else [c]

/-- The name up to the closing quote; a character behind a backslash stands for itself. -/
def unescapeName : List Char → Option (List Char)
  | [] => none
  | '"' :: _ => some []
  | '\\' :: c :: rest => (unescapeName rest).map (c :: ·)
  | ['\\'] => none
  | c :: rest => (unescapeName rest).map (c :: ·)

def nameMark : String := "filename=\""

def withFilename (r : Response) (name : String) : Response :=
  r.setHeader "Content-Disposition"
    ("attachment; " ++ nameMark ++ String.ofList (escapeName name.toList) ++ "\"")

/-- The file name that the response is offered under. -/
def filename? (r : Response) : Option String := do
  let disposition ← r.header? "Content-Disposition"
  let rest ← Text.findAfter? nameMark.toList disposition.toList
  return String.ofList (← unescapeName rest)

/-! Body -/

def text (r : Response) : String := Text.lossy r.body

def checksum (r : Response) : String := Digest.checksum r.body

/-- Sets the entity tag: the value given, or else the checksum of the body. -/
def withETag (r : Response) (value : Option String) : Response :=
  r.setHeader "ETag" (value.getD r.checksum)

def withoutETag (r : Response) : Response := r.removeHeader "ETag"

end Response

end WebService
