import WebService.Cors
import WebService.Network.Address

/-!
The configuration of a service in four sections, each setting with its default.
-/
namespace WebService.Settings

structure Server where
  host : String := "127.0.0.1"
  port : Nat := 8080
  workers : Option Nat := none
deriving DecidableEq, Repr, Inhabited

structure App where
  debug : Bool := false
  strictSlashes : Bool := false
  maxBodySize : Nat := 10485760
  cors : Cors.Setting := .enabled false
deriving DecidableEq, Repr, Inhabited

structure Logging where
  level : String := "info"
  accessLog : Bool := true
  accessLogFormat : String := "combined"
  accessLogFile : Option String := none
  errorLogFile : Option String := none
deriving DecidableEq, Repr, Inhabited

structure Performance where
  keepAlive : Bool := true
  requestTimeout : Nat := 30
deriving DecidableEq, Repr, Inhabited

structure Config where
  server : Server := {}
  app : App := {}
  logging : Logging := {}
  performance : Performance := {}
deriving DecidableEq, Repr, Inhabited

/-! Sections as data -/

def optionalText (s : Option String) : Json.Document := .ofOption .text s

namespace Server

def toDocument (s : Server) : Json.Document :=
  .record [("host", .text s.host), ("port", .ofNat s.port),
    ("workers", .ofOption .ofNat s.workers)]

end Server

namespace App

def toDocument (a : App) : Json.Document :=
  .record [("debug", .boolean a.debug), ("strict_slashes", .boolean a.strictSlashes),
    ("max_body_size", .ofNat a.maxBodySize), ("cors", a.cors.toDocument)]

end App

namespace Logging

def toDocument (l : Logging) : Json.Document :=
  .record [("level", .text l.level), ("access_log", .boolean l.accessLog),
    ("access_log_format", .text l.accessLogFormat),
    ("access_log_file", optionalText l.accessLogFile),
    ("error_log_file", optionalText l.errorLogFile)]

end Logging

namespace Performance

def toDocument (p : Performance) : Json.Document :=
  .record [("keep_alive", .boolean p.keepAlive), ("request_timeout", .ofNat p.requestTimeout)]

end Performance

namespace Config

def toDocument (c : Config) : Json.Document :=
  .record [("server", c.server.toDocument), ("app", c.app.toDocument),
    ("logging", c.logging.toDocument), ("performance", c.performance.toDocument)]

/-- The text of the configuration on one line, fields in their declared order. -/
def text (c : Config) : Except Json.WriteError String := c.toDocument.render {}

/-- The address to listen on. -/
def address (c : Config) : Except Error Network.Address :=
  let text := c.server.host ++ ":" ++ toString c.server.port
  match Network.Address.parse? text with
  | some address => .ok address
  | none => .error (.invalidAddress text)

end Config

/-! Shapes. Each field has a default of its own, and so has each section. -/

def serverShape : Json.Shape :=
  .record "ServerConfig" [
    ("host", .text, some (.text "127.0.0.1")),
    ("port", .integer (.unsigned "u16" 16), some (.ofNat 8080)),
    ("workers", .optional (.integer (.unsigned "usize" 64)), some .null)]

def appShape : Json.Shape :=
  .record "AppConfig" [
    ("debug", .boolean, some (.boolean false)),
    ("strict_slashes", .boolean, some (.boolean false)),
    ("max_body_size", .integer (.unsigned "u64" 64), some (.ofNat 10485760)),
    ("cors", Cors.settingShape, some (Cors.Setting.enabled false).toDocument)]

def loggingShape : Json.Shape :=
  .record "LoggingConfig" [
    ("level", .text, some (.text "info")),
    ("access_log", .boolean, some (.boolean true)),
    ("access_log_format", .text, some (.text "combined")),
    ("access_log_file", .optional .text, some .null),
    ("error_log_file", .optional .text, some .null)]

def performanceShape : Json.Shape :=
  .record "PerformanceConfig" [
    ("keep_alive", .boolean, some (.boolean true)),
    ("request_timeout", .integer (.unsigned "u64" 64), some (.ofNat 30))]

def configShape : Json.Shape :=
  let d : Config := {}
  .record "Config" [
    ("server", serverShape, some d.server.toDocument),
    ("app", appShape, some d.app.toDocument),
    ("logging", loggingShape, some d.logging.toDocument),
    ("performance", performanceShape, some d.performance.toDocument)]

/-! Data of these shapes as sections -/

/-- The fields of a record. -/
def fieldsOf : Json.Document → List (String × Json.Document)
  | .record fields => fields
  | _ => []

def textOr (default : String) : Option Json.Document → String
  | some (.text s) => s
  | _ => default

def flagOr (default : Bool) : Option Json.Document → Bool
  | some (.boolean b) => b
  | _ => default

def natOr (default : Nat) : Option Json.Document → Nat
  | some (.number (.whole n)) => n.toNat
  | _ => default

def text? : Option Json.Document → Option String
  | some (.text s) => some s
  | _ => none

def nat? : Option Json.Document → Option Nat
  | some (.number (.whole n)) => some n.toNat
  | _ => none

def Server.ofDocument (document : Json.Document) : Server :=
  let fields := fieldsOf document
  let d : Server := {}
  { host := textOr d.host (fields.lookup "host")
    port := natOr d.port (fields.lookup "port")
    workers := nat? (fields.lookup "workers") }

def App.ofDocument (document : Json.Document) : App :=
  let fields := fieldsOf document
  let d : App := {}
  { debug := flagOr d.debug (fields.lookup "debug")
    strictSlashes := flagOr d.strictSlashes (fields.lookup "strict_slashes")
    maxBodySize := natOr d.maxBodySize (fields.lookup "max_body_size")
    cors := ((fields.lookup "cors").map Cors.Setting.ofDocument).getD d.cors }

def Logging.ofDocument (document : Json.Document) : Logging :=
  let fields := fieldsOf document
  let d : Logging := {}
  { level := textOr d.level (fields.lookup "level")
    accessLog := flagOr d.accessLog (fields.lookup "access_log")
    accessLogFormat := textOr d.accessLogFormat (fields.lookup "access_log_format")
    accessLogFile := text? (fields.lookup "access_log_file")
    errorLogFile := text? (fields.lookup "error_log_file") }

def Performance.ofDocument (document : Json.Document) : Performance :=
  let fields := fieldsOf document
  let d : Performance := {}
  { keepAlive := flagOr d.keepAlive (fields.lookup "keep_alive")
    requestTimeout := natOr d.requestTimeout (fields.lookup "request_timeout") }

namespace Config

def ofDocument (document : Json.Document) : Config :=
  let fields := fieldsOf document
  let part (key : String) : Json.Document := (fields.lookup key).getD .null
  { server := .ofDocument (part "server")
    app := .ofDocument (part "app")
    logging := .ofDocument (part "logging")
    performance := .ofDocument (part "performance") }

/-- The configuration that a value is, where every setting has exactly its type. -/
def ofValue (v : Json.Value) : Except Json.Mismatch Config := do
  return ofDocument (← configShape.read v)

end Config

end WebService.Settings
