import AccessControl.Host.Adapter

namespace AccessControl

inductive Operation
  | validate
  | evaluate (principal asset action : String)
  | check (principal asset action : String)
  | batch (principal : String) (queries : List Query)
  | assets (principal action : String)
  | search (principal action : String) (token : Option String) (pageSize : UInt32)
deriving Repr

inductive HostOperation
  | client (op : Operation)
  | checkPolicy (command : List String) (context : Host.Context)
  | list (command : Option String) (context : Host.Context)
  | listAllowed (principal : String)
  | validateConfig
  | version (verbose : Bool)
deriving Repr

inductive Answer
  | result (r : Result)
  | decision (d : Decision)
  | decisions (ds : List Decision)
  | search (r : SearchResult)
  | policy (c : Host.PolicyCheck)
  | lines (ls : List String)
  | flag (b : Bool)

variable {σ : Type}

namespace Client

def perform (client : Client σ) (draw : Run σ Call) : Operation → Run σ Answer
  | .validate => pure (.result client.validate)
  | .evaluate principal asset action =>
    (client.evaluate draw principal asset action).map .decision
  | .check principal asset action => (client.check draw principal asset action).map .result
  | .batch principal queries => (client.evaluateBatch draw principal queries).map .decisions
  | .assets principal action => (client.assets draw principal action).map .lines
  | .search principal action token pageSize =>
    (client.search draw principal action token pageSize).map .search

-- Performs operations in order; `draws` tells by its number, from `n` on, how each draws its call.
def performAll (client : Client σ) (draws : Nat → Run σ Call) : (n : Nat) → List Operation →
    Run σ (List Answer)
  | _, [] => pure []
  | n, op :: ops => do
    let answer ← client.perform (draws n) op
    let answers ← client.performAll draws (n + 1) ops
    return answer :: answers

end Client

namespace Host.Adapter

def perform (adapter : Adapter σ) (draw : Run σ Call) : HostOperation → Run σ Answer
  | .client op => adapter.client.perform draw op
  | .checkPolicy command context => (adapter.checkPolicy draw command context).map .policy
  | .list command context => (adapter.list draw command context).map .lines
  | .listAllowed principal => (adapter.listAllowed draw principal).map .lines
  | .validateConfig => pure (.flag adapter.validateConfig)
  | .version verbose => pure (.lines (adapter.versionLines verbose))

def performAll (adapter : Adapter σ) (draws : Nat → Run σ Call) : (n : Nat) → List HostOperation →
    Run σ (List Answer)
  | _, [] => pure []
  | n, op :: ops => do
    let answer ← adapter.perform (draws n) op
    let answers ← adapter.performAll draws (n + 1) ops
    return answer :: answers

end Host.Adapter
end AccessControl
