import WebService.Json.Reader
import WebService.Settings.Coercion
import WebService.Settings.Config
import WebService.Settings.Path
import WebService.Text.Split
import WebService.Text.Utf8
import WebService.Toml.Reader

/-!
The configuration from its layers: the defaults, a file and the environment, of which a later one
overrides those before it key by key.
-/
namespace WebService.Settings

/-- Settings by their paths. -/
abbrev Layer := List (String × Setting)

/-- Files of the working directory by name. -/
abbrev Files := List (String × List UInt8)

abbrev Environment := List (String × String)

namespace Layer

def defaultFlag (path : String) (value : Bool) : String × Setting :=
  (path, .scalar none (.boolean value))

def defaultNat (path : String) (value : Nat) : String × Setting :=
  (path, .scalar none (.integer value))

def defaultText (path value : String) : String × Setting := (path, .scalar none (.text value))

/-- The layer under all others: a default for each setting that is not optional, but for the policy
on other origins. -/
def defaults : Layer :=
  [defaultText "server.host" "127.0.0.1",
   defaultNat "server.port" 8080,
   defaultFlag "app.debug" false,
   defaultFlag "app.strict_slashes" false,
   defaultNat "app.max_body_size" 10485760,
   defaultText "logging.level" "info",
   defaultFlag "logging.access_log" true,
   defaultText "logging.access_log_format" "combined",
   defaultFlag "performance.keep_alive" true,
   defaultNat "performance.request_timeout" 30]

/-- The settings of a TOML document. -/
def ofToml? (layer : Option String) (text : String) : Option Layer :=
  (Toml.Entries.parse? text).map (Setting.ofEntries layer)

/-- The settings of a JSON document, which must be an object. -/
def ofJson? (layer : Option String) (text : String) : Option Layer :=
  match Json.Value.parse text with
  | .ok (.object members) => some (Setting.ofMembers layer members)
  | _ => none

/-! Files -/

/-- The parts of a path that lead somewhere. -/
def parts (path : String) : List (List Char) :=
  (Text.splitOn (· = '/') path.toList).filter fun part => !part.isEmpty && part ≠ ['.']

/-- A path without detours. -/
def plainPath (path : String) : String := String.ofList (Text.joinWith ['/'] (parts path))

/-- Whether a path names a file, and not what is in a directory. -/
def namesFile (path : String) : Bool :=
  match (Text.splitOn (· = '/') path.toList).getLast? with
  | some part => !part.isEmpty && part ≠ ['.']
  | none => false

/-- Whether a path stays inside the working directory and leads to something in it. -/
def leadsInside (path : String) : Bool :=
  !path.startsWith "/" && !(parts path).isEmpty && !(parts path).contains ['.', '.']

/-- What the file of that name holds, if there is one. -/
def content? (files : Files) (path : String) : Option (List UInt8) :=
  (files.reverse.find? fun (name, _) => plainPath name = plainPath path).map (·.2)

/-- What a document is written in. Documents in YAML, INI, RON and JSON5 are not read here: what is
said of files is said where none of these stands in the place of the settings. -/
inductive Format where
  | toml
  | json
deriving DecidableEq, Repr

def Format.extension : Format → String
  | toml => ".toml"
  | json => ".json"

/-- Whether the last part of a path ends so, and is not the ending alone. -/
def hasEnding (path ending : String) : Bool :=
  let name := (parts path).getLastD []
  ending.toList.isSuffixOf name && ending.toList.length < name.length

/-- The format that the end of a file's name tells. -/
def Format.ofName? (path : String) : Option Format :=
  [Format.toml, Format.json].find? fun format => hasEnding path format.extension

/-- The file with the settings and its format: the one with exactly the given name, or else that
name with the extension of a format. A file with the ending of a format that is not read here is
passed over, as are files outside the working directory. -/
def locate? (files : Files) (path : String) : Option (String × Format) :=
  if !leadsInside path then none
  else if namesFile path && (content? files path).isSome then
    (Format.ofName? path).map fun format => (plainPath path, format)
  else
    let candidates := [Format.toml, Format.json].map fun format =>
      (plainPath path ++ format.extension, format)
    candidates.find? fun (name, _) => (content? files name).isSome

def ofText? (format : Format) (layer : Option String) (text : String) : Option Layer :=
  match format with
  | .toml => ofToml? layer text
  | .json => ofJson? layer text

/-- The settings of the file that a path leads to; a missing file has none, nor has one that is not
UTF-8. Where only a file in a format that is not read here stands, none is found. -/
def ofFile (files : Files) (path : String) : Except Fault Layer :=
  match locate? files path with
  | none => .ok []
  | some (name, format) =>
    match (content? files name).bind Text.ofOctets? with
    | none => .ok []
    | some text =>
      match ofText? format (some name) text with
      | some layer => .ok layer
      | none => .error .unreadable

/-! The environment -/

/-- Variables with settings have names that begin with this, in any case. -/
def variableMark : String := "restglue_"

/-- The path of the setting that a variable is for; two underscores stand between keys. -/
def pathOf? (name : String) : Option String :=
  (Text.after? variableMark.toList (Text.lowercase name.toList)).map fun rest =>
    String.ofList (Text.replaceAll ['_', '_'] ['.'] rest)

/-- What the value of a variable is read as. -/
def readVariable (value : String) : Scalar :=
  let word := Text.lower value
  if word = "true" then .boolean true
  else if word = "false" then .boolean false
  else match Number.readInt64 value.toList with
    | some i => .integer i
    | none =>
      match Number.readBinary Number.double value.toList with
      | some x => .real x
      | none => .text value

def ofEnvironment (environment : Environment) : Layer :=
  environment.filterMap fun (name, value) =>
    (pathOf? name).map fun path => (path, .scalar (some "the environment") (readVariable value))

/-- The settings of a layer put over others. The case of their paths does not count. -/
def putOver (layer : Layer) (root : Setting) : Setting :=
  layer.foldl (fun root (path, s) => Setting.putAt (.ofText (Text.lower path)) s root) root

end Layer

namespace Config

/-- The configuration from layers, each put over those before it. -/
def ofLayers (layers : List Layer) : Except Fault Config := do
  let settings := layers.foldl (fun root layer => layer.putOver root) Setting.empty
  return ofDocument (← settings.read configShape)

/-- The configuration that a TOML document makes of the defaults. -/
def ofToml (text : String) : Except Fault Config :=
  match Layer.ofToml? none text with
  | some layer => ofLayers [Layer.defaults, layer]
  | none => .error .unreadable

/-- The configuration of the file that a path leads to, under that of the environment. -/
def load (files : Files) (environment : Environment) (path : String) : Except Fault Config := do
  let file ← Layer.ofFile files path
  ofLayers [Layer.defaults, file, Layer.ofEnvironment environment]

end Config

end WebService.Settings
