import WebService.Log.Message
import WebService.Response.Build

/-!
Responses as they are sent, with every header or else as a plain server error.
-/
namespace WebService

/-- What goes out: a status, fields and a body. -/
structure Sent where
  status : Nat
  fields : Header.Fields
  body : List UInt8
deriving DecidableEq, Repr, Inhabited

namespace Response

/-- The content type in front of the headers, unless there is none. -/
def outgoing (r : Response) : List (String × String) :=
  if r.mimetype.isEmpty then r.headers else ("Content-Type", r.contentType) :: r.headers

/-- The fields that headers make, or the fault of the first that cannot be sent. -/
def fieldsOf (headers : List (String × String)) : Except Header.Fault Header.Fields :=
  headers.foldlM (fun fields (name, value) => Header.Fields.append fields name value) []

/-- What is sent in place of a response that cannot be sent. -/
def fallback : Sent := ⟨500, [], Text.octets serverErrorText⟩

/-- The statuses that can be written, which have three digits. -/
def writable : StatusRange := ⟨100, 999⟩

/-- Why a response cannot be sent. -/
inductive SendFault where
  | status
  | header (fault : Header.Fault)
deriving DecidableEq, Repr

def SendFault.message : SendFault → String
  | status => "invalid status code"
  | header fault => fault.message

/-- What a response makes, or the fault of its status or else of the first header that has one. -/
def assemble (r : Response) : Except SendFault Sent :=
  if !writable.contains r.status then .error .status
  else match fieldsOf r.outgoing with
    | .ok fields => .ok ⟨r.status, fields, r.body⟩
    | .error fault => .error (.header fault)

/-- The response as it is sent, and what the log says of a fault. -/
def toSent (r : Response) : Sent × List Log.Message :=
  match r.assemble with
  | .ok sent => (sent, [])
  | .error fault =>
    (fallback,
      [.error ("Failed to build " ++ toString r.status ++ " response: " ++ fault.message)])

end Response

end WebService
