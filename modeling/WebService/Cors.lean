import WebService.Json.Reader
import WebService.Json.Shape
import WebService.Response.Build

/-!
Access for pages of other origins: the setting, the policy that it makes, and the headers that the
policy adds to responses.
-/
namespace WebService

namespace Cors

/-- What the setting may say; lists that are left out have defaults. -/
structure Options where
  origins : Option (List String) := none
  methods : Option (List String) := none
  headers : Option (List String) := none
  credentials : Bool := false
  maxAge : Nat := 86400
deriving DecidableEq, Repr, Inhabited

inductive Setting where
  | enabled (value : Bool)
  | custom (options : Options)
deriving DecidableEq, Repr, Inhabited

/-- The origins that have access. -/
inductive Origins where
  | any
  | only (list : List String)
deriving DecidableEq, Repr, Inhabited

end Cors

/-- The policy of an application. -/
structure Cors where
  origins : Cors.Origins
  methods : List String
  headers : List String
  credentials : Bool
  maxAge : Nat
deriving DecidableEq, Repr, Inhabited

namespace Cors

def defaultMethods : List String := ["GET", "OPTIONS", "PATCH", "POST", "PUT", "DELETE"]

def defaultHeaders : List String :=
  ["Content-Type", "Cache-Control", "X-Requested-With", "Authorization"]

/-- A list without an asterisk is the only one that keeps origins out. -/
def originsOf : Option (List String) → Origins
  | some list => if list.contains "*" then .any else .only list
  | none => .any

def ofOptions (o : Options) : Cors :=
  { origins := originsOf o.origins
    methods := o.methods.getD defaultMethods
    headers := o.headers.getD defaultHeaders
    credentials := o.credentials
    maxAge := o.maxAge }

def permissive : Cors := ofOptions {}

/-- The policy of a setting, if that allows anything at all. -/
def ofSetting? : Setting → Option Cors
  | .enabled false => none
  | .enabled true => some permissive
  | .custom options => some (ofOptions options)

/-! Headers -/

/-- What an allowed origin is told: an asterisk where all are allowed, else its own name. -/
def allowOrigin? (c : Cors) (origin : String) : Option String :=
  match c.origins with
  | .any => some "*"
  | .only list => if list.contains origin then some origin else none

inductive Verdict where
  | applied
  | noOrigin
  | unauthorized (origin : String)
deriving DecidableEq, Repr

/-- The headers for an origin that is allowed and told as `allowed`. -/
def grant (c : Cors) (allowed : String) (r : Response) : Response :=
  let r := if allowed = "*" then r else r.setHeader "Vary" "Origin"
  let r := r.setHeader "Access-Control-Allow-Origin" allowed
  let r := if c.credentials then r.setHeader "Access-Control-Allow-Credentials" "true" else r
  let r := r.setHeader "Access-Control-Allow-Headers" (", ".intercalate c.headers)
  r.setHeader "Access-Control-Allow-Methods" (", ".intercalate c.methods)

/-- The response for a request from an origin, which may be missing or empty. -/
def apply (c : Cors) (origin : Option String) (r : Response) : Verdict × Response :=
  match origin.filter fun o => !o.isEmpty with
  | none => (.noOrigin, r)
  | some origin =>
    match c.allowOrigin? origin with
    | none => (.unauthorized origin, r)
    | some allowed => (.applied, c.grant allowed r)

/-- The answer to a page that asks before it sends a request. -/
def preflight (c : Cors) : Response :=
  Response.noContent.setHeader "Access-Control-Max-Age" (toString c.maxAge)

/-! The setting as data -/

def optionsShape : Json.Shape :=
  .record "CorsOptions" [
    ("origins", .optional (.list .text), some .null),
    ("methods", .optional (.list .text), some .null),
    ("headers", .optional (.list .text), some .null),
    ("credentials", .boolean, some (.boolean false)),
    ("max_age", .integer (.unsigned "u64" 64), some (.ofNat 86400))]

def settingShape : Json.Shape := .either "CorsSetting" [.boolean, optionsShape]

namespace Setting

def ofList : Json.Document → Option (List String)
  | .list items => some (items.filterMap fun item =>
      match item with
      | .text s => some s
      | _ => none)
  | _ => none

/-- The setting that data of the shape stands for. -/
def ofDocument : Json.Document → Setting
  | .boolean b => .enabled b
  | .record fields =>
    .custom
      { origins := (fields.lookup "origins").bind ofList
        methods := (fields.lookup "methods").bind ofList
        headers := (fields.lookup "headers").bind ofList
        credentials := match fields.lookup "credentials" with
          | some (.boolean b) => b
          | _ => false
        maxAge := match fields.lookup "max_age" with
          | some (.number (.whole n)) => n.toNat
          | _ => 86400 }
  | _ => .enabled false

def listDocument (list : Option (List String)) : Json.Document :=
  .ofOption (fun items => .list (items.map .text)) list

def toDocument : Setting → Json.Document
  | enabled b => .boolean b
  | custom o =>
    .record [
      ("origins", listDocument o.origins), ("methods", listDocument o.methods),
      ("headers", listDocument o.headers), ("credentials", .boolean o.credentials),
      ("max_age", .ofNat o.maxAge)]

/-- The setting that a text is, or what is wrong with the text. -/
def parse (s : String) : Except String Setting :=
  match Json.readLeading s.toList with
  | .error fault => .error (fault.message s)
  | .ok (value, rest) =>
    match settingShape.read value with
    | .error mismatch => .error mismatch.message
    | .ok document =>
      match Json.readEnd rest with
      | .error fault => .error (fault.message s)
      | .ok _ => .ok (ofDocument document)

end Setting

end Cors

end WebService
