import WebService.Text.Blank

/-!
Messages for the logs: their severity, the log they go to and the line they make.
-/
namespace WebService.Log

/-- How much is written, from the least to the most. -/
inductive Level where
  | error
  | warn
  | info
  | debug
deriving DecidableEq, Repr, Inhabited

namespace Level

def rank : Level → Nat
  | error => 0
  | warn => 1
  | info => 2
  | debug => 3

/-- The level of a name; any name that is not known stands for `info`. -/
def ofName (name : String) : Level :=
  match String.ofList ((Text.trim name.toList).map Char.toLower) with
  | "error" => error
  | "warn" | "warning" => warn
  | "debug" | "trace" => debug
  | _ => info

end Level

/-- Notices and access lines are written at every level, and so are errors. -/
inductive Message where
  | error (text : String)
  | warning (text : String)
  | info (text : String)
  | debug (text : String)
  | notice (text : String)
  | access (line : String)
deriving DecidableEq, Repr

inductive Target where
  | access
  | error
deriving DecidableEq, Repr

namespace Message

def target : Message → Target
  | error _ | warning _ => .error
  | _ => .access

def line : Message → String
  | error text => "[ERROR] " ++ text
  | warning text => "[WARN] " ++ text
  | info text => "[INFO] " ++ text
  | debug text => "[DEBUG] " ++ text
  | notice text => text
  | access line => line

/-- Whether a message is written at a level. -/
def isShown (level : Level) : Message → Bool
  | warning _ => Level.warn.rank ≤ level.rank
  | info _ => Level.info.rank ≤ level.rank
  | debug _ => Level.debug.rank ≤ level.rank
  | _ => true

end Message

/-- What messages leave in a log when everything is written. -/
def textOf (target : Target) (messages : List Message) : String :=
  String.join ((messages.filter fun m => m.target = target).map fun m => m.line ++ "\n")

end WebService.Log
