import WebService.Json.Document
import WebService.Markup.Document
import WebService.Route.Fault
import WebService.Settings.Fault

/-!
What can go wrong while responses are built, routes are added and settings are read; and failures,
which are what is left of an error when it is reported.
-/
namespace WebService

/-- Statuses from `least` to `most`; there are none if these are the wrong way round. -/
structure StatusRange where
  least : Nat
  most : Nat
deriving DecidableEq, Repr, Inhabited

namespace StatusRange

def any : StatusRange := ⟨100, 599⟩
def success : StatusRange := ⟨200, 299⟩
def fault : StatusRange := ⟨400, 599⟩

def contains (range : StatusRange) (status : Nat) : Bool :=
  range.least ≤ status && status ≤ range.most

end StatusRange

inductive Error where
  | invalidStatus (status : Nat) (range : StatusRange)
  | markup (error : Markup.Error)
  | json (error : Json.WriteError)
  | invalidPlaceholder (type : String)
  | invalidPattern (pattern : String) (fault : Route.PatternFault)
  | invalidMethod (text : String)
  | settings (fault : Settings.Fault)
  | invalidAddress (text : String)
deriving DecidableEq, Repr

/-- A message and those of its causes, the nearest first. -/
structure Failure where
  message : String
  causes : List String
deriving DecidableEq, Repr, Inhabited

namespace Failure

def ofMessage (message : String) : Failure := ⟨message, []⟩

def chain (f : Failure) : List String := f.message :: f.causes

/-- The lines of the causes, numbered from `index`. -/
def causeLines (index : Nat) : List String → String
  | [] => ""
  | cause :: causes => "\n    " ++ toString index ++ ": " ++ cause ++ causeLines (index + 1) causes

/-- The message with all its causes. -/
def describe (f : Failure) : String :=
  if f.causes.isEmpty then f.message
  else f.message ++ "\n\nCaused by:" ++ causeLines 0 f.causes

end Failure

namespace Error

def message : Error → String
  | invalidStatus status range =>
    "status " ++ toString status ++ " is outside the valid range " ++ toString range.least ++ "-"
      ++ toString range.most
  | markup e => "XML serialization failed: " ++ e.message
  | json e => "JSON serialization failed: " ++ e.message
  | invalidPlaceholder type => "invalid placeholder type: " ++ type
  | invalidPattern pattern fault => "invalid route pattern '" ++ pattern ++ "': " ++ fault.message
  | invalidMethod text => "invalid HTTP method: " ++ text
  | settings fault => "configuration error: " ++ fault.message
  | invalidAddress text => "invalid address: " ++ text

/-- The failure that an error is; those of writers and settings have a cause of their own. -/
def toFailure (e : Error) : Failure :=
  match e with
  | json cause => ⟨e.message, [cause.message]⟩
  | settings cause => ⟨e.message, [cause.message]⟩
  | _ => ⟨e.message, []⟩

end Error

end WebService
