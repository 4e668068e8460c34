import WebService.Response.Build

/-!
How the handling of a request can end: with a result, or with one of three interruptions.
-/
namespace WebService

/-- An abort carries the response to be sent; a failure is unexpected; a panic is a failure that
nothing reported, of which there may be a message. -/
inductive Interruption where
  | abort (response : Response)
  | failure (failure : Failure)
  | panic (message : Option String)
deriving DecidableEq, Repr

abbrev Outcome (α : Type) := Except Interruption α

namespace Outcome

/-- An error of the library is a failure of the handler that meets it. -/
def ofError {α : Type} : Except Error α → Outcome α
  | .ok a => .ok a
  | .error e => .error (.failure e.toFailure)

/-- Ends the handling with a message to the client and status 400. -/
def reject {α : Type} (message : String) : Outcome α :=
  .error (.abort (Response.error message))

end Outcome

end WebService
