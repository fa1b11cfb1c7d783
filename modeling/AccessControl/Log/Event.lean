import AccessControl.Call
import AccessControl.Config.Basic
import AccessControl.Json.Writer

namespace AccessControl
namespace Log

inductive Level
  | debug
  | info
  | warn
  | error
deriving DecidableEq, Repr, Inhabited

def Level.name : Level → String
  | .debug => "debug"
  | .info => "info"
  | .warn => "warn"
  | .error => "error"

structure Event where
  name : String
  level : Level
  -- Milliseconds since the epoch.
  time : Nat
  requestId : Option RequestId
  message : String
deriving DecidableEq, Repr, Inhabited

-- The fields of a line, in its order.
def Event.members (e : Event) : List (String × Json) :=
  [("event", .string e.name),
    ("level", .string e.level.name),
    ("timestamp_ms", .nat e.time),
    ("request_id", .ofOption (e.requestId.map (·.text))),
    ("message", .string e.message)]

-- One JSON object without a raw line break, so that no text that is logged can pass for a record.
def Event.line (e : Event) : String :=
  (Json.object e.members).compact

def lines (es : List Event) : String :=
  String.join (es.map fun e => e.line ++ "\n")

end Log

-- Whether a configuration asks for events of a level. Warnings and errors are always wanted.
def Config.logs (c : Config) : Log.Level → Bool
  | .debug => c.enableDebugLogging
  | .info => c.enableAccessLogging
  | .warn | .error => true

end AccessControl
