import WebService.Method
import WebService.Route.Pattern

/-!
Tables of routes, in which the first route that fits counts.
-/
namespace WebService.Route

/-- What a table leads to for some methods on the paths of a pattern. -/
structure Entry (α : Type) where
  methods : List Method
  pattern : Pattern
  target : α
deriving Repr

/-- Routes in the order in which they were added. -/
structure Table (α : Type) where
  entries : List (Entry α)
deriving Repr

/-- The outcome of a search: a route with its values, the methods that the path would take, or
nothing for the path. -/
inductive Found (α : Type) where
  | route (entry : Entry α) (vars : Vars)
  | methodNotAllowed (allowed : List Method)
  | notFound
deriving Repr

variable {α : Type}

/-- A route for `GET` serves `HEAD` as well. -/
def Entry.accepts (entry : Entry α) (method : Method) : Bool :=
  entry.methods.contains method || (method = .head && entry.methods.contains .get)

namespace Table

def empty : Table α := ⟨[]⟩

def push (t : Table α) (entry : Entry α) : Table α := ⟨t.entries ++ [entry]⟩

/-- Adds a route for listed methods. -/
def addWith (t : Table α) (methods : List Method) (pattern : String) (target : α) :
    Except Error (Table α) := do
  let pattern ← Pattern.parse pattern
  return t.push ⟨methods, pattern, target⟩

/-- Adds a route for methods given as a text. -/
def add (t : Table α) (methods pattern : String) (target : α) : Except Error (Table α) :=
  match Method.parseList methods with
  | .ok list => t.addWith list pattern target
  | .error text => .error (.invalidMethod text)

/-- The methods with one behind them, unless it is among them. -/
def withMethod (allowed : List Method) (method : Method) : List Method :=
  if allowed.contains method then allowed else allowed ++ [method]

/-- Goes from route to route; `allowed` are the methods of those passed so far that fit the path. -/
def search (method : Method) (path : String) (strict : Bool) (allowed : List Method) :
    List (Entry α) → Found α
  | [] => if allowed.isEmpty then .notFound else .methodNotAllowed allowed
  | entry :: rest =>
    match entry.pattern.match? path strict with
    | none => search method path strict allowed rest
    | some vars =>
      if entry.accepts method then .route entry vars
      else search method path strict (entry.methods.foldl withMethod allowed) rest

/-- The first route that fits the path and accepts the method. -/
def lookup (t : Table α) (method : Method) (path : String) (strict : Bool) : Found α :=
  search method path strict [] t.entries

end Table

end WebService.Route
