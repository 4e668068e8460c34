import WebService.Calendar.Reader
import WebService.Request.Basic
import WebService.Request.Outcome

/-!
Arguments of the query as truth values, integers and moments. What cannot be read as such is the
client's mistake.
-/
namespace WebService.Request

/-- The answer to a value that is not of the kind that its key asks for. -/
def notOfKind {α : Type} (kind key value : String) : Outcome α :=
  .reject ("Not a " ++ kind ++ ": " ++ key ++ "=" ++ value ++ ".")

/-- The value of an argument if it is there, read by `parse?`. -/
def readArg {α : Type} (r : Request) (kind key : String) (parse? : String → Option α) :
    Outcome (Option α) :=
  match r.arg? key with
  | none => .ok none
  | some value =>
    match parse? value with
    | some a => .ok (some a)
    | none => notOfKind kind key value

def getFlag (r : Request) (key : String) (default : Bool) : Outcome Bool := do
  return (← r.readArg "boolean" key Route.readFlag?).getD default

def getInt (r : Request) (key : String) : Outcome (Option Int) :=
  r.readArg "integer" key fun s => Number.readInt64 s.toList

def getMoment (r : Request) (key : String) : Outcome (Option Calendar.Moment) :=
  r.readArg "datetime" key Calendar.parse?

end WebService.Request
