import WebService.Log.Message
import WebService.Settings.Config
import WebService.Text.Split
import WebService.Text.Utf8

/-!
Where messages are written. Until the log is set up, they go to the standard streams; files are
opened to add to them, and their directories are made.
-/
namespace WebService.Log

/-- A place in the file system, as the names that lead to it. -/
abbrev Place := List String

/-- Files and directories that logs have made, with what was written to the files. -/
structure Disk where
  files : List (Place × String) := []
  directories : List Place := []
deriving DecidableEq, Repr, Inhabited

/-- Why a log could not be set up. -/
inductive Refusal where
  | notFound
  | isDirectory
  | notDirectory
  | alreadyExists
  | invalidInput
  | invalidName
deriving DecidableEq, Repr

namespace Disk

def hasFile (d : Disk) (place : Place) : Bool := d.files.any fun (p, _) => p == place

/-- The place that a name leads to from another one; two dots lead back to where that one lies. -/
def follow (place : Place) (name : String) : Place :=
  if name ≠ ".." then place ++ [name]
  else if place = [""] then place
  else if place.isEmpty || place.getLast? = some ".." then place ++ [".."]
  else place.dropLast

def isTooLong (name : String) : Bool := 255 < Text.octetCount name.toList

def isDirectory (d : Disk) (place : Place) : Bool :=
  place.isEmpty || place = [""] || place.getLast? = some ".." || d.directories.contains place

/-- Makes the directories that the names lead through, and answers where they lead; `made` tells
whether one of them has been missing so far. Where a file stands already, no directory is made. -/
def makeDirectories (d : Disk) (made : Bool) (place : Place) :
    List String → Disk × Except Refusal Place
  | [] => (d, .ok place)
  | name :: rest =>
    let next := follow place name
    if isTooLong name then (d, .error .invalidName)
    else if d.hasFile next then
      (d, .error (if rest.isEmpty || made then .alreadyExists else .notDirectory))
    else if d.isDirectory next then makeDirectories d made next rest
    else makeDirectories { d with directories := d.directories ++ [next] } true next rest

/-- A path, read from its end, without the slashes and single dots there. -/
def dropDetours : List Char → List Char
  | '/' :: rest => dropDetours rest
  | '.' :: '/' :: rest => dropDetours rest
  | path => path

/-- The path to where the last name of a path lies. -/
def parentOf (path : List Char) : List Char :=
  (dropDetours ((dropDetours path.reverse).dropWhile (· ≠ '/'))).reverse

/-- Why no file system takes a path, wherever it leads. -/
def pathRefusal? (path : List Char) : Option Refusal :=
  if path.contains '\x00' then some .invalidInput
  else if 4096 ≤ Text.octetCount path then some .invalidName
  else none

/-- A file to add to, by the place it would be at and the names in its path. A path that ends as
those of directories do names no file. -/
def openAt (d : Disk) (place : Place) (names : List String) : Disk × Except Refusal Place :=
  let last := (names.filter (!·.isEmpty)).getLast?
  if last.all fun name => name = "." || name = ".." then
    (d, .error (if place.getLast?.any isTooLong then .invalidName
      else if d.isDirectory place then .isDirectory
      else if d.hasFile place then .notDirectory
      else .notFound))
  else if names.getLast? = some "" || d.isDirectory place then (d, .error .isDirectory)
  else if last.any isTooLong then (d, .error .invalidName)
  else if d.hasFile place then (d, .ok place)
  else ({ d with files := d.files ++ [(place, "")] }, .ok place)

/-- A file to add to. Its directories are made before the path as a whole is looked at. -/
def openFile (d : Disk) (path : String) : Disk × Except Refusal Place :=
  let names := (Text.splitOn (· = '/') path.toList).map String.ofList
  let steps := names.filter fun name => !name.isEmpty && name ≠ "."
  let start := if path.startsWith "/" then [""] else []
  if path.isEmpty then (d, .error .notFound)
  else match pathRefusal? (parentOf path.toList) with
    | some refusal => (d, .error refusal)
    | none =>
      match d.makeDirectories false start steps.dropLast with
      | (d, .error refusal) => (d, .error refusal)
      | (d, .ok place) =>
        match pathRefusal? path.toList with
        | some refusal => (d, .error refusal)
        | none => d.openAt (steps.getLast?.elim place (follow place)) names

def append (d : Disk) (place : Place) (text : String) : Disk :=
  { d with files := d.files.map fun (p, content) =>
      if p = place then (p, content ++ text) else (p, content) }

/-- The files of the working directory by their paths. -/
def localFiles (d : Disk) : List (String × String) :=
  (d.files.filter fun (place, _) => place.head? ≠ some "" && place.head? ≠ some "..").map
    fun (place, content) => ("/".intercalate place, content)

end Disk

inductive Sink where
  | output
  | errors
  | file (place : Place)
deriving DecidableEq, Repr, Inhabited

/-- How the log is set up. -/
structure Writer where
  level : Level
  access : Sink
  error : Sink
deriving DecidableEq, Repr, Inhabited

/-- The log: how it is set up, unless that is still to come, and what has been written. -/
structure Journal where
  writer : Option Writer := none
  output : String := ""
  errors : String := ""
  disk : Disk := {}
deriving DecidableEq, Repr, Inhabited

namespace Journal

/-- How messages are written before the log is set up. -/
def initialWriter : Writer := ⟨.info, .output, .errors⟩

def sinkOf (w : Writer) : Target → Sink
  | .access => w.access
  | .error => w.error

def append (j : Journal) (sink : Sink) (text : String) : Journal :=
  match sink with
  | .output => { j with output := j.output ++ text }
  | .errors => { j with errors := j.errors ++ text }
  | .file place => { j with disk := j.disk.append place text }

/-- Writes the message as a line of its own, if the level shows it. -/
def write (j : Journal) (m : Message) : Journal :=
  let w := j.writer.getD initialWriter
  if m.isShown w.level then j.append (sinkOf w m.target) (m.line ++ "\n") else j

/-- The sink of a log that may have a file of its own. -/
def openSink (j : Journal) (path : Option String) (stream : Sink) :
    Journal × Except Refusal Sink :=
  match path with
  | none => (j, .ok stream)
  | some path =>
    let (disk, place) := j.disk.openFile path
    ({ j with disk }, place.map .file)

/-- Sets up the log, which is done only once. Both files are opened before that is checked. -/
def setUp (j : Journal) (logging : Settings.Logging) : Journal × Except Refusal Unit :=
  match j.openSink logging.accessLogFile .output with
  | (j, .error refusal) => (j, .error refusal)
  | (j, .ok access) =>
    match j.openSink logging.errorLogFile .errors with
    | (j, .error refusal) => (j, .error refusal)
    | (j, .ok error) =>
      if j.writer.isSome then (j, .error .alreadyExists)
      else ({ j with writer := some ⟨.ofName logging.level, access, error⟩ }, .ok ())

end Journal

end WebService.Log
