import AccessControl.Http.Delivery
import AccessControl.Http.Url
import AccessControl.Transport.Attempt

namespace AccessControl

-- What answers at each host and port with the bytes that come back over a connection; nobody listens
-- where there is nothing. A service is the other view of the same: what comes of requests.
structure Network (σ : Type) where
  listener? : Http.Host → (port : Nat) → Option (Http.Arrival → Run σ Http.Received)

structure Service (σ : Type) where
  deliver : Http.Url → Http.Request → Run σ Http.Delivery

namespace Network

variable {σ : Type}

def empty : Network σ where
  listener? _ _ := none

-- Nobody here completes a TLS handshake, so that requests over TLS end at the greeting.
def service (n : Network σ) : Service σ where
  deliver url request :=
    match n.listener? url.host url.portNumber, url.scheme with
    | none, _ => pure .refused
    | some listener, .http => do
      Run.emit (.arrived (.request request))
      return .ofReceived (← listener (.request request))
    | some listener, .https => do
      Run.emit (.arrived .tlsGreeting)
      let received ← listener .tlsGreeting
      return if received.stillOpen then .timedOut else .refused

-- One listener, whose answers are used in order, connection by connection, and the last one for ever
-- after.
def rehearsed (host : Http.Host) (port : Nat) : Network (List Http.Received) where
  listener? h p :=
    if h = host ∧ p = port then
      some fun _ replies =>
        match replies with
        | [] => ⟨{ bytes := [] }, [], []⟩
        | [r] => ⟨r, [], [r]⟩
        | r :: rest => ⟨r, [], rest⟩
    else none

end Network
end AccessControl
