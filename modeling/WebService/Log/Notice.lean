import WebService.Log.Message
import WebService.Network.Address
import WebService.Settings.Config
import WebService.Text.Quoted

/-!
Messages about the service itself: that it has started, that it stops, and what becomes of
connections.
-/
namespace WebService.Log

def ruler : String := "======================================"

/-- What the log says when the service listens on an address. -/
def started (address : Network.Address) (config : Settings.Config) : List Message :=
  let logging := config.logging
  let optional (label : String) (value : Option String) : List String :=
    (value.map fun value => label ++ value).toList
  let lines := [ruler, "Server started successfully", "Listening on: http://" ++ address.text,
      "Log level: " ++ logging.level]
    ++ optional "Worker threads: " (config.server.workers.map toString)
    ++ (if config.app.debug then ["Debug mode: error details are sent to clients"] else [])
    ++ optional "Access log: " logging.accessLogFile
    ++ optional "Error log: " logging.errorLogFile
    ++ [ruler ++ "\n"]
  lines.map .notice

def stopped : Message := .notice "[Shutdown] Stopped accepting connections"

def accepted (peer : Network.Address) : Message :=
  .debug ("[Connection] Accepted from: " ++ peer.text)

def connectionFailed (cause : String) : Message :=
  .error ("Failed to serve connection: " ++ Text.quoted cause)

end WebService.Log
