import WebService.Service.Handler

/-!
Resources: a handler for each verb that a thing takes.
-/
namespace WebService

/-- The verbs with a handler of their own, and the methods under which the resource is found. -/
structure Resource (σ : Type) where
  allowed : List Method := [.get, .head]
  get : Option (Handler σ) := none
  head : Option (Handler σ) := none
  post : Option (Handler σ) := none
  put : Option (Handler σ) := none
  patch : Option (Handler σ) := none
  delete : Option (Handler σ) := none
  options : Option (Handler σ) := none

namespace Resource

variable {σ : Type}

/-- The handler of a method; `HEAD` is a `GET` unless it has its own. -/
def handler? (r : Resource σ) (method : Method) : Option (Handler σ) :=
  if method = .get then r.get
  else if method = .head then r.head.or r.get
  else if method = .post then r.post
  else if method = .put then r.put
  else if method = .patch then r.patch
  else if method = .delete then r.delete
  else if method = .options then r.options
  else none

/-- Hands a request to the handler of its method, or tells the methods that are allowed. -/
def handle (r : Resource σ) : Handler σ := fun state request =>
  match r.handler? request.method with
  | some handler => handler state request
  | none => ⟨.error (.abort (Response.methodNotAllowed r.allowed)), state, []⟩

end Resource

end WebService
