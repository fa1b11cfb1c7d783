import AccessControl.Proofs.Checks
import AccessControl.Proofs.Operation

namespace AccessControl
namespace Client

open RetryPolicy

variable {σ : Type}

-- What the attempts of a request come to one after another, were all of them made.
def outcomes (client : Client σ) (call : Call) (endpoint : Endpoint) (payload : Json) (s : σ) (i : Nat) :
    Except AccessError Json :=
  (nth (client.attempting (client.attemptOf call endpoint payload)) s i).value

-- What a request that names a principal and assets comes to.
inductive Settles (client : Client σ) (call : Call) (principal : String) (assets : List String)
    (endpoint : Endpoint) (payload : Json) (s : σ) : Except AccessError Response → Prop
  | unidentified {message : String} (hi : identifiersFault? principal assets = some message) :
    Settles client call principal assets endpoint payload s (.error (.invalidRequest message call.requestId))
  | unconfigured {message : String} (hi : identifiersFault? principal assets = none)
      (hc : client.config.fault? = some message) :
    Settles client call principal assets endpoint payload s (.error (.config message call.requestId))
  | failed {n : Nat} {e : AccessError} (hi : identifiersFault? principal assets = none)
      (hc : client.config.fault? = none)
      (hl : IsLast (client.outcomes call endpoint payload s) (RetryPolicy.ofConfig client.config).attempts n)
      (ho : client.outcomes call endpoint payload s n = .error e) :
    Settles client call principal assets endpoint payload s (.error e)
  | malformed {n : Nat} {body : Json} {e : Json.ReadError} (hi : identifiersFault? principal assets = none)
      (hc : client.config.fault? = none)
      (hl : IsLast (client.outcomes call endpoint payload s) (RetryPolicy.ofConfig client.config).attempts n)
      (ho : client.outcomes call endpoint payload s n = .ok body) (hb : Response.ofJson body = .error e) :
    Settles client call principal assets endpoint payload s
      (.error (.unexpected ("malformed decision response: " ++ e.message) call.requestId))
  | answered {n : Nat} {body : Json} {response : Response} (hi : identifiersFault? principal assets = none)
      (hc : client.config.fault? = none)
      (hl : IsLast (client.outcomes call endpoint payload s) (RetryPolicy.ofConfig client.config).attempts n)
      (ho : client.outcomes call endpoint payload s n = .ok body) (hb : Response.ofJson body = .ok response) :
    Settles client call principal assets endpoint payload s (.ok response)

variable {client : Client σ} {call : Call} {principal : String} {assets : List String} {endpoint : Endpoint}
  {payload : Json} {s : σ} {r : Except AccessError Response}

theorem request_value {n : Nat} (hl : IsLast (client.outcomes call endpoint payload s) (RetryPolicy.ofConfig client.config).attempts n) :
    (client.request call (.ok ()) endpoint payload s).value =
      reading call (client.outcomes call endpoint payload s n) := by
  have ⟨m, hm, he⟩ := client.execute_eq_made call endpoint payload s
  rw [request_passed, he, hm.unique hl]
  rfl

theorem settles_iff :
    client.Settles call principal assets endpoint payload s r ↔
      (client.request call (client.evaluationChecks call principal assets) endpoint payload s).value = r := by
  rw [evaluationChecks_eq]
  constructor
  case mp =>
    intro h
    cases h
    case unidentified hi => rw [hi]; rfl
    case unconfigured hi hc => rw [hi]; simp only [hc]; rfl
    case failed hi hc hl ho =>
      rw [hi]
      simp only [hc, request_value hl, ho]
      rfl
    case malformed hi hc hl ho hb =>
      rw [hi]
      simp only [hc, request_value hl, ho, reading, hb]
      rfl
    case answered hi hc hl ho hb =>
      rw [hi]
      simp only [hc, request_value hl, ho, reading, hb]
      rfl
  case mpr =>
    rintro rfl
    cases hi : identifiersFault? principal assets
    case some message => exact .unidentified hi
    case none =>
      cases hc : client.config.fault?
      case some message => exact .unconfigured hi hc
      case none =>
        obtain ⟨n, hl, -⟩ := client.execute_eq_made call endpoint payload s
        simp only [request_value hl]
        cases ho : client.outcomes call endpoint payload s n
        case error e => exact .failed hi hc hl ho
        case ok body =>
          rw [reading]
          cases hb : Response.ofJson body
          case error e => exact .malformed hi hc hl ho hb
          case ok response => exact .answered hi hc hl ho hb

end Client
end AccessControl
