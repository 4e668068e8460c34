import WebService.Log.Entry
import WebService.Request.Target
import WebService.Response.Wire
import WebService.Route.Table
import WebService.Service.Resource
import WebService.Settings.Config

/-!
Applications: a table of routes with the settings that hold for every response. Here failures become
responses, and here other origins get their headers.
-/
namespace WebService

structure Application (σ : Type) where
  table : Route.Table (Handler σ)
  debug : Bool
  strictSlashes : Bool
  maxBodySize : Nat
  cors : Option Cors
  accessLog : Option String

/-- A part of a body, fields behind it, which nothing reads, or the message of the fault that ends
it. -/
inductive Chunk where
  | data (octets : List UInt8)
  | trailers
  | fault (message : String)
deriving DecidableEq, Repr

/-- A request as it comes in, before its body is read. -/
structure Incoming where
  method : Method
  address : String
  version : Version
  fields : Header.Fields
  chunks : List Chunk
  peer : Option Network.Address
deriving DecidableEq, Repr

/-- Why a body is not read to its end. -/
inductive BodyFault where
  | tooLarge
  | unreadable (message : String)
deriving DecidableEq, Repr

namespace Incoming

/-- The chunks one after the other, of at most `limit` octets. -/
def readChunks (limit : Nat) : List Chunk → Except BodyFault (List UInt8)
  | [] => .ok []
  | .fault message :: _ => .error (.unreadable message)
  | .trailers :: rest => readChunks limit rest
  | .data octets :: rest =>
    if limit < octets.length then .error .tooLarge
    else do return octets ++ (← readChunks (limit - octets.length) rest)

/-- The size that the first field for it declares. -/
def declaredSize? (i : Incoming) : Option Nat :=
  ((Header.Fields.first? i.fields "content-length").filter Header.isPlain).bind fun value =>
    Number.readUInt64 value.toList

/-- The body, which is not read at all if its declared size is too large. -/
def body (i : Incoming) (limit : Nat) : Except BodyFault (List UInt8) :=
  if (i.declaredSize?.map fun size => decide (limit < size)).getD false then .error .tooLarge
  else readChunks limit i.chunks

/-- The request with the given body. -/
def request (i : Incoming) (body : List UInt8) : Request :=
  { Request.new i.method (Request.targetOf i.address) with
    version := i.version, fields := i.fields, body := body, peer := i.peer }

end Incoming

namespace Application

variable {σ : Type}

def new (settings : Settings.App) : Application σ :=
  { table := .empty
    debug := settings.debug
    strictSlashes := settings.strictSlashes
    maxBodySize := settings.maxBodySize
    cors := Cors.ofSetting? settings.cors
    accessLog := none }

/-- Writes a line for each request in the given format. -/
def withAccessLog (app : Application σ) (format : Option String) : Application σ :=
  { app with accessLog := format }

/-! Routes -/

def route (app : Application σ) (methods pattern : String) (handler : Handler σ) :
    Except Error (Application σ) := do
  return { app with table := ← app.table.add methods pattern handler }

def resource (app : Application σ) (pattern : String) (resource : Resource σ) :
    Except Error (Application σ) := do
  return { app with table := ← app.table.addWith resource.allowed pattern resource.handle }

/-- Adds routes up to the first that is refused, whose error comes with those added. -/
def addRoutes (app : Application σ) :
    List (String × String × Handler σ) → Application σ × Except Error Unit
  | [] => (app, .ok ())
  | (methods, pattern, handler) :: rest =>
    match app.route methods pattern handler with
    | .ok app => app.addRoutes rest
    | .error e => (app, .error e)

def routeCount (app : Application σ) : Nat := app.table.entries.length

/-! Requests -/

/-- The response to a failure, which the error log tells. -/
def fail (app : Application σ) (request : Request) (failure : Failure) : Response × Log.Message :=
  (Response.internalServerError failure app.debug,
    .error (request.method.name ++ " " ++ request.path ++ " failed: " ++ failure.message))

/-- The failure that a panic is. -/
def panicFailure (message : Option String) : Failure :=
  .ofMessage ("handler panicked: " ++ message.getD "unknown panic payload")

/-- The response that an outcome leads to. -/
def settle (app : Application σ) (request : Request) (turn : Turn σ (Outcome Response)) :
    Turn σ Response :=
  let failed (failure : Failure) : Turn σ Response :=
    let (response, message) := app.fail request failure
    ⟨response, turn.state, turn.log ++ [message]⟩
  match turn.value with
  | .ok response | .error (.abort response) => ⟨response, turn.state, turn.log⟩
  | .error (.failure failure) => failed failure
  | .error (.panic message) => failed (panicFailure message)

/-- The answer where a path takes other methods only. -/
def refuse (app : Application σ) (request : Request) (allowed : List Method) : Response :=
  match app.cors with
  | some cors =>
    if request.method = .options then cors.preflight else Response.methodNotAllowed allowed
  | none => Response.methodNotAllowed allowed

/-- The response of the route that a request has. -/
def answer (app : Application σ) (state : σ) (request : Request) : Turn σ Response :=
  match app.table.lookup request.method request.path app.strictSlashes with
  | .route entry vars =>
    let request := { request with vars := vars }
    app.settle request (entry.target state request)
  | .methodNotAllowed allowed => ⟨app.refuse request allowed, state, []⟩
  | .notFound => ⟨Response.notFound ("Service not found: " ++ request.path ++ "."), state, []⟩

/-- The response with the headers for the request's origin, and what the log says of an origin that
is not allowed. -/
def share (app : Application σ) (request : Request) (response : Response) :
    Response × List Log.Message :=
  match app.cors with
  | none => (response, [])
  | some cors =>
    match cors.apply (request.header? "origin") response with
    | (.unauthorized origin, response) =>
      (response, [.debug ("CORS: origin " ++ origin ++ " is not allowed")])
    | (_, response) => (response, [])

/-- The response to a request. -/
def dispatch (app : Application σ) (state : σ) (request : Request) : Turn σ Response :=
  let turn := app.answer state request
  let (response, messages) := app.share request turn.value
  ⟨response, turn.state, turn.log ++ messages⟩

/-- The response to a request whose body is not read, and what the log says of the fault. -/
def turnAway (app : Application σ) (request : Request) (fault : BodyFault) :
    Response × List Log.Message :=
  let (response, messages) : Response × List Log.Message := match fault with
    | .tooLarge => (Response.payloadTooLarge, [])
    | .unreadable message =>
      (Response.error "Failed to read request body.",
        [.warning ("Failed to read request body: " ++ message)])
  match app.cors with
  | none => (response, messages)
  | some cors => ((cors.apply (request.header? "origin") response).2, messages)

/-- Reads, answers and logs a request that came in at a time and took some microseconds. -/
def handle (app : Application σ) (state : σ) (incoming : Incoming) (time : Calendar.Moment)
    (micros : Nat) : Turn σ Sent :=
  let (request, turn) : Request × Turn σ Response :=
    match incoming.body app.maxBodySize with
    | .ok body =>
      let request := incoming.request body
      (request, app.dispatch state request)
    | .error fault =>
      let request := incoming.request []
      let (response, messages) := app.turnAway request fault
      (request, ⟨response, state, messages⟩)
  let access : List Log.Message := app.accessLog.toList.map fun format =>
    .access ((Log.Entry.ofExchange request turn.value time micros).format format)
  let (sent, faults) := turn.value.toSent
  ⟨sent, turn.state, turn.log ++ access ++ faults⟩

end Application

end WebService
