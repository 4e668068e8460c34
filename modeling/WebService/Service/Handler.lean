import WebService.Log.Message
import WebService.Request.Basic
import WebService.Request.Outcome

/-!
Handlers: what a service does with a request, given the state that it keeps between requests.
-/
namespace WebService

/-- A result, the state after it, and the messages for the log. -/
structure Turn (σ α : Type) where
  value : α
  state : σ
  log : List Log.Message

abbrev Handler (σ : Type) := σ → Request → Turn σ (Outcome Response)

namespace Handler

variable {σ : Type}

/-- A handler that neither looks at the state nor logs anything. -/
def ofFunction (f : Request → Outcome Response) : Handler σ :=
  fun state request => ⟨f request, state, []⟩

/-- A handler that looks at the state and leaves it as it is. -/
def reading (f : σ → Request → Outcome Response) : Handler σ :=
  fun state request => ⟨f state request, state, []⟩

end Handler

end WebService
