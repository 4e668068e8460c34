import WebService.Calendar.Writer
import WebService.Json.Document
import WebService.Request.Basic
import WebService.Response.Basic

/-!
Lines of the access log: what is kept of an exchange, and the formats it is written in.
-/
namespace WebService.Log

/-- An exchange, whose duration is counted in microseconds. -/
structure Entry where
  remoteAddr : String
  /-- When the exchange was. Logs show local time, whose offset from universal time is fixed to zero
  here, so that no entry has an offset of its own. -/
  time : Calendar.Moment
  method : String
  path : String
  query : Option String
  version : String
  status : Nat
  bodyBytes : Nat
  referer : Option String
  userAgent : Option String
  micros : Nat
deriving DecidableEq, Repr, Inhabited

namespace Entry

/-- The entry of a request and its response; a duration too long to count is cut. -/
def ofExchange (request : Request) (response : Response) (time : Calendar.Moment) (micros : Nat) :
    Entry :=
  { remoteAddr := (request.peer.map fun peer => peer.host.text).getD "-"
    time
    method := request.method.name
    path := request.path
    query := request.query
    version := request.version.label
    status := response.status
    bodyBytes := response.body.length
    referer := request.header? "referer"
    userAgent := request.header? "user-agent"
    micros := min micros Number.maxUInt64 }

/-- The entry as data, with local time at offset zero, `Z`. -/
def toDocument (e : Entry) : Json.Document :=
  .record [
    ("remote_addr", .text e.remoteAddr),
    ("time", .text (String.ofList (Calendar.writeUniversal "Z" e.time))),
    ("method", .text e.method),
    ("path", .text e.path),
    ("query", .ofOption .text e.query),
    ("http_version", .text e.version),
    ("status", .ofNat e.status),
    ("body_bytes", .ofNat e.bodyBytes),
    ("referer", .ofOption .text e.referer),
    ("user_agent", .ofOption .text e.userAgent),
    ("request_time_us", .ofNat e.micros)]

def uri (e : Entry) : String :=
  match e.query with
  | some query => e.path ++ "?" ++ query
  | none => e.path

/-- The first line of the request. -/
def requestLine (e : Entry) : String := e.method ++ " " ++ e.uri ++ " HTTP/" ++ e.version

/-- The time in the form of access logs, where local time has the offset `+0000`. -/
def localTime (e : Entry) : String := String.ofList (Calendar.writeLogTime e.time)

def common (e : Entry) : String :=
  e.remoteAddr ++ " - - [" ++ e.localTime ++ "] \"" ++ e.requestLine ++ "\" " ++ toString e.status
    ++ " " ++ toString e.bodyBytes

def combined (e : Entry) : String :=
  e.common ++ " \"" ++ e.referer.getD "-" ++ "\" \"" ++ e.userAgent.getD "-" ++ "\""

def jsonLine (e : Entry) : String :=
  match e.toDocument.render {} with
  | .ok text => text
  | .error _ => ""

/-- The duration in seconds as a floating-point number, with three places. -/
def seconds (e : Entry) : String :=
  let f := Number.double
  match (f.ofInt e.micros).unscale f (f.ofInt 1000000) with
  | .finite _ m exponent =>
    let (n, d) := Number.Binary.ratio m exponent
    String.ofList (Number.fixedText 3 n d)
  | _ => ""

/-- The variables of formats with their values, in the order in which they are put in; a name that
begins with another one comes before it. Local time has offset zero in both of its forms, `+0000`
and `+00:00`. -/
def placeholders (e : Entry) : List (String × String) := [
  ("$remote_addr", e.remoteAddr),
  ("$time_local", e.localTime),
  ("$time_iso8601", String.ofList (Calendar.writeUniversal "+00:00" e.time)),
  ("$request_time", e.seconds),
  ("$request_method", e.method),
  ("$request_uri", e.uri),
  ("$request", e.requestLine),
  ("$status", toString e.status),
  ("$body_bytes_sent", toString e.bodyBytes),
  ("$http_referer", e.referer.getD "-"),
  ("$http_user_agent", e.userAgent.getD "-")]

/-- A format with each variable replaced, one after the other. -/
def custom (e : Entry) (pattern : String) : String :=
  String.ofList (e.placeholders.foldl
    (fun line (name, value) => Text.replaceAll name.toList value.toList line) pattern.toList)

/-- The line of an entry in one of the named formats or in one of its own. -/
def format (e : Entry) (name : String) : String :=
  match name with
  | "combined" => e.combined
  | "common" => e.common
  | "json" => e.jsonLine
  | pattern => e.custom pattern

end Entry

end WebService.Log
