import AccessControl.Call
import AccessControl.Result

namespace AccessControl

-- An answer of the service that decided nothing: its status, and its text if one is kept.
structure ServiceAnswer where
  status : Nat
  body : Option String
deriving DecidableEq, Repr, Inhabited

namespace AccessError

inductive Kind
  | config
  -- The caller asked for something that no request can carry.
  | invalidRequest
  | auth
  | timeout
  -- No answer, or none that can be used.
  | network
  | unexpected
deriving DecidableEq, Repr, Inhabited

def Kind.result : Kind → Result
  | .config => .configError
  | .invalidRequest => .invalidRequest
  | .auth => .authError
  | .timeout => .timeoutError
  | .network => .networkError
  | .unexpected => .error

def Kind.isRetryable : Kind → Bool
  | .timeout | .network => true
  | _ => false

def Kind.title : Kind → String
  | .config => "configuration error"
  | .invalidRequest => "invalid request"
  | .auth => "authentication error"
  | .timeout => "timeout"
  | .network => "network error"
  | .unexpected => "unexpected error"

end AccessError

-- What the service answered is kept with the failures that an answer caused.
structure AccessError where
  kind : AccessError.Kind
  message : String
  answer : Option ServiceAnswer := none
  requestId : RequestId
deriving DecidableEq, Repr, Inhabited

namespace AccessError

def config (message : String) (id : RequestId) : AccessError :=
  { kind := .config, message, requestId := id }

def invalidRequest (message : String) (id : RequestId) : AccessError :=
  { kind := .invalidRequest, message, requestId := id }

def network (message : String) (id : RequestId) : AccessError :=
  { kind := .network, message, requestId := id }

def unexpected (message : String) (id : RequestId) : AccessError :=
  { kind := .unexpected, message, requestId := id }

def result (e : AccessError) : Result :=
  e.kind.result

def isRetryable (e : AccessError) : Bool :=
  e.kind.isRetryable

def description (e : AccessError) : String :=
  e.kind.title ++ ": " ++ e.message

def status (e : AccessError) : Option Nat :=
  e.answer.map (·.status)

def body (e : AccessError) : Option String :=
  e.answer.bind (·.body)

def ofStatus (status : Nat) (body : Option String) (id : RequestId) : AccessError :=
  let (kind, message) : Kind × String :=
    if status = 401 then (.auth, "invalid API token")
    else if status = 403 then (.auth, "insufficient permissions")
    else if status = 408 then (.timeout, "service reported request timeout (HTTP 408)")
    else if 500 ≤ status then (.network, "server error (HTTP " ++ toString status ++ ")")
    else (.network, "unexpected HTTP status " ++ toString status)
  { kind, message, answer := some ⟨status, body.filter (!·.isEmpty)⟩, requestId := id }

end AccessError

-- What can go wrong before there is an answer to look at.
inductive TransportFailure
  | timedOut
  | connect (detail : String)
  | other (detail : String)
deriving DecidableEq, Repr, Inhabited

def AccessError.ofTransport (failure : TransportFailure) (timeout : Nat) (id : RequestId) :
    AccessError :=
  match failure with
  | .timedOut =>
    { kind := .timeout, message := "request timed out after " ++ toString timeout ++ "ms",
      requestId := id }
  | .connect detail => network ("connection failed: " ++ detail) id
  | .other detail => network ("request failed: " ++ detail) id

end AccessControl
