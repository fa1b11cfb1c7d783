import AccessControl.Transport.Service

namespace AccessControl

-- What is known to have come of requests. What a run does before the first request beyond that is
-- settled, so that the run can be repeated once its outcome is known, and goes on from there in the same
-- way.
structure Tape where
  deliveries : List Http.Delivery
  -- The first request that nothing is known of.
  asked : Option (Http.Url × Http.Request) := none

namespace Tape

-- Every request arrives; past the end of the tape it comes to nothing.
def service : Service Tape where
  deliver url request := fun t =>
    match t.deliveries with
    | d :: ds => ⟨d, [.arrived (.request request)], { t with deliveries := ds }⟩
    | [] =>
      ⟨.failed, [.arrived (.request request)], { t with asked := t.asked <|> some (url, request) }⟩

-- The effects up to the arrival of the request that `answered` others precede.
def settled (answered : Nat) : List Effect → List Effect
  | [] => []
  | .arrived a :: es =>
    match answered with
    | 0 => [.arrived a]
    | n + 1 => .arrived a :: settled n es
  | e :: es => e :: settled answered es

end Tape
end AccessControl
