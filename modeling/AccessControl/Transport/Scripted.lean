import AccessControl.Transport.Attempt

namespace AccessControl

inductive Scripted
  | success (body : Json)
  | status (status : Nat) (body : Option String)
  | failure (failure : TransportFailure)
  | error (kind : AccessError.Kind) (message : String)

namespace Scripted

def outcome (call : Call) (timeout : Nat) : Scripted → Except AccessError Json
  | success body => .ok body
  | status n body => .error (.ofStatus n body call.requestId)
  | failure f => .error (.ofTransport f timeout call.requestId)
  | error kind message => .error { kind, message, requestId := call.requestId }

end Scripted

-- An empty script answers every attempt with null.
abbrev Script := List Scripted

-- The outcome that is due, and what is left of the script. The last outcome is used for ever after.
def Script.next : Script → Scripted × Script
  | [] => (.success .null, [])
  | [o] => (o, [o])
  | o :: rest => (o, rest)

namespace Transport

def scripted : Transport Script where
  send a := fun s =>
    let (o, rest) := Script.next s
    ⟨o.outcome a.call a.config.timeout, [], rest⟩

end Transport
end AccessControl
