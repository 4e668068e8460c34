import WebService.Method
import WebService.Network.Address
import WebService.Route.Pattern
import WebService.Text.Form
import WebService.Text.Utf8

/-!
Requests: a method, a target cut into path and query, fields, a body read to its end, and what the
path has captured.
-/
namespace WebService

/-- Protocol versions. -/
inductive Version where
  | http09
  | http10
  | http11
  | http2
  | http3
deriving DecidableEq, Repr, Inhabited

namespace Version

/-- The version as logs show it. -/
def label : Version → String
  | http09 => "0.9"
  | http10 => "1.0"
  | http11 => "1.1"
  | http2 => "2"
  | http3 => "3"

def name : Version → String
  | http2 => "HTTP/2.0"
  | http3 => "HTTP/3.0"
  | v => "HTTP/" ++ v.label

end Version

structure Request where
  method : Method
  path : String
  query : Option String
  args : List (String × String)
  version : Version
  fields : Header.Fields
  body : List UInt8
  vars : Route.Vars
  peer : Option Network.Address
deriving DecidableEq, Repr, Inhabited

namespace Request

/-- A target is cut at its first question mark; an empty path stands for the root. -/
def splitTarget (target : String) : String × Option String :=
  let (path, query) := match Text.splitFirst? (· = '?') target.toList with
    | some (path, query) => (String.ofList path, some (String.ofList query))
    | none => (target, none)
  (if path.isEmpty then "/" else path, query)

def new (method : Method) (target : String) : Request :=
  let (path, query) := splitTarget target
  { method, path, query
    args := (query.map Text.decodeForm).getD []
    version := .http11
    fields := []
    body := []
    vars := []
    peer := none }

/-- Adds a field, if it can be one. -/
def withField (r : Request) (name value : String) : Request :=
  match Header.Fields.append r.fields name value with
  | .ok fields => { r with fields := fields }
  | .error _ => r

/-- The first value of a field, if that is plain text. -/
def header? (r : Request) (name : String) : Option String :=
  (Header.Fields.first? r.fields name).filter Header.isPlain

/-- The first value of an argument of the query. -/
def arg? (r : Request) (key : String) : Option String := r.args.lookup key

def hasArg (r : Request) (key : String) : Bool := r.args.any fun (k, _) => k == key

/-- The value captured first. -/
def resource? (r : Request) : Option Route.Captured := r.vars.head?.map (·.2)

def var? (r : Request) (name : String) : Option Route.Captured := r.vars.lookup name

def varInt? (r : Request) (name : String) : Option Int := (r.var? name).bind (·.asInt?)

end Request

end WebService
