import AccessControl.Decision.Basic
import AccessControl.Retry

namespace AccessControl

def maxIdentifier : Nat := 255

def isIdentifier (s : String) : Bool :=
  !Text.isBlankText s && s.length ≤ maxIdentifier

def checkIdentifier (kind value : String) (id : RequestId) : Except AccessError Unit :=
  if Text.isBlankText value then
    .error (.invalidRequest (kind ++ " id must not be empty") id)
  else if maxIdentifier < value.length then
    .error (.invalidRequest (kind ++ " id exceeds " ++ toString maxIdentifier ++ " characters") id)
  else .ok ()

theorem checkIdentifier_eq_ok_iff {kind value : String} {id : RequestId} :
    checkIdentifier kind value id = .ok () ↔ isIdentifier value = true := by
  have room : value.length ≤ maxIdentifier ↔ ¬maxIdentifier < value.length := Nat.not_lt.symm
  by_cases hb : Text.isBlankText value <;> by_cases hl : maxIdentifier < value.length <;>
    simp [checkIdentifier, isIdentifier, room, hb, hl]

def defaultAction : String := "execute"

-- The action asked for; a blank one stands for the default.
def effectiveAction (action : String) : String :=
  if Text.isBlankText action then defaultAction else action

def defaultPageSize : Nat := 50

structure Query where
  asset : String
  action : String
deriving DecidableEq, Repr, Inhabited

namespace Query

def effective (q : Query) : Query :=
  { q with action := effectiveAction q.action }

-- The attribute name under which no description of the asset is sent.
def idAttribute : String := "id"

def toJson (assetAttribute : String) (q : Query) : Json :=
  .ofMembers <|
    [("action", .string q.action), ("assetId", .string q.asset)] ++
      if assetAttribute = "" ∨ assetAttribute = idAttribute then []
      else [("asset", .ofMembers [(assetAttribute, .string q.asset)])]

end Query

structure Page where
  token : Option String
  size : Nat
deriving DecidableEq, Repr, Inhabited

def requestPayload (principal : String) (queries : List Json) : Json :=
  .ofMembers
    [("principal", .ofMembers [("id", .string principal)]), ("queries", .array queries)]

def evaluationPayload (config : Config) (principal : String) (queries : List Query) : Json :=
  requestPayload principal (queries.map (·.toJson config.assetAttribute))

def searchPayload (principal action : String) (page : Option Page) : Json :=
  let paging : List (String × Json) := match page with
    | none => []
    | some p =>
      (match p.token with
        | some t => if t.isEmpty then [] else [("pageToken", .string t)]
        | none => []) ++ [("pageSize", .nat p.size)]
  requestPayload principal [.ofMembers (("action", .string action) :: paging)]

-- Every operation checks its identifiers and the configuration before anything is sent, runs the request
-- through the retry policy, and folds every failure into its answer: no operation fails, and none allows
-- what the service did not allow in so many words.
structure Client (σ : Type) where
  config : Config
  transport : Transport σ

namespace Client

variable {σ : Type} (client : Client σ)

def validate : Result :=
  if client.config.isValid then .ok else .configError

def ensureConfigured (id : RequestId) : Except AccessError Unit :=
  client.config.validate.mapError fun e => .config e.message id

def execute (call : Call) (endpoint : Endpoint) (payload : Json) :
    Run σ (Except AccessError Json) :=
  let attempt : Attempt := { endpoint, payload, call, config := client.config }
  (RetryPolicy.ofConfig client.config).run client.config call fun _ => do
    Run.emit (.attempted attempt)
    client.transport.send attempt

-- Sends a request that has passed its checks, and reads the answer.
def request (call : Call) (checks : Except AccessError Unit) (endpoint : Endpoint)
    (payload : Json) : Run σ (Except AccessError Response) :=
  match checks with
  | .error e => pure (.error e)
  | .ok () => do
    match ← client.execute call endpoint payload with
    | .error e => pure (.error e)
    | .ok body =>
      pure <| (Response.ofJson body).mapError fun e =>
        .unexpected ("malformed decision response: " ++ e.message) call.requestId

-- The one record that a finished decision leaves.
def record (d : Decision) : Run σ Unit :=
  let about := "principal=" ++ d.principal ++ " asset=" ++ d.asset ++ " action=" ++ d.action
  match if d.isError then d.errorMessage else none with
  | some message =>
    client.config.log .error "access_decision_failed" d.call
      (about ++ " result=" ++ d.result.name ++ ": " ++ message)
  | none =>
    client.config.log .info "access_decision" d.call
      (about ++ " decision=" ++ d.word ++ " reason=" ++ d.reason)

-- The checks before an evaluation: the principal, the assets in order, the configuration.
def evaluationChecks (call : Call) (principal : String) (assets : List String) :
    Except AccessError Unit := do
  checkIdentifier "principal" principal call.requestId
  assets.forM fun asset => checkIdentifier "asset" asset call.requestId
  client.ensureConfigured call.requestId

def singleDecision (call : Call) (principal : String) (q : Query) :
    Except AccessError Response → Decision
  | .error e => .ofError principal q.asset q.action call e
  | .ok response =>
    match response.decisions with
    | d :: _ => .ofService principal q.asset q.action call d
    | [] => .failed principal q.asset q.action call .error "no decisions in response"

-- The decisions on several questions: answers go to questions by their place.
def alignDecisions (call : Call) (principal : String) :
    List Query → List ServiceDecision → List Decision
  | [], _ => []
  | q :: qs, d :: ds =>
    .ofService principal q.asset q.action call d :: alignDecisions call principal qs ds
  | q :: qs, [] =>
    .failed principal q.asset q.action call .error "no decision for query" ::
      alignDecisions call principal qs []

def batchDecisions (call : Call) (principal : String) (queries : List Query) :
    Except AccessError Response → List Decision
  | .error e => queries.map fun q => .ofError principal q.asset q.action call e
  | .ok response => alignDecisions call principal queries response.decisions

def evaluate (draw : Run σ Call) (principal asset action : String) : Run σ Decision := do
  let call ← draw
  let q : Query := ⟨asset, effectiveAction action⟩
  client.config.log .debug "evaluate_access" call
    ("principal=" ++ principal ++ " asset=" ++ asset ++ " action=" ++ q.action)
  let response ← client.request call (client.evaluationChecks call principal [asset]) .evaluations
    (evaluationPayload client.config principal [q])
  let decision := singleDecision call principal q response
  client.record decision
  return decision

def check (draw : Run σ Call) (principal asset action : String) : Run σ Result :=
  (client.evaluate draw principal asset action).map (·.result)

-- Several questions in one request. No request is sent for none, but a call is drawn all the same.
def evaluateBatch (draw : Run σ Call) (principal : String) (queries : List Query) :
    Run σ (List Decision) := do
  let call ← draw
  let qs := queries.map Query.effective
  client.config.log .debug "evaluate_access_batch" call
    ("principal=" ++ principal ++ " queries=" ++ toString qs.length)
  if qs.isEmpty then return []
  let response ← client.request call
    (client.evaluationChecks call principal (qs.map (·.asset))) .evaluations
    (evaluationPayload client.config principal qs)
  let decisions := batchDecisions call principal qs response
  decisions.forM client.record
  return decisions

def searchWith (draw : Run σ Call) (principal action : String) (page : Option Page) :
    Run σ SearchResult := do
  let call ← draw
  let action := effectiveAction action
  let about := "principal=" ++ principal ++ " action=" ++ action
  client.config.log .debug "asset_search" call about
  let checks := do
    checkIdentifier "principal" principal call.requestId
    client.ensureConfigured call.requestId
  match ← client.request call checks .search (searchPayload principal action page) with
  | .ok response =>
    let result := SearchResult.ofResponse principal action call response
    client.config.log .info "asset_search_completed" call
      (about ++ " assets=" ++ toString result.assets.length)
    return result
  | .error e =>
    client.config.log .error "asset_search_failed" call (about ++ ": " ++ e.description)
    return .failed principal action call e

def search (draw : Run σ Call) (principal action : String) (token : Option String)
    (pageSize : UInt32) : Run σ SearchResult :=
  client.searchWith draw principal action
    (some ⟨token, if pageSize = 0 then defaultPageSize else pageSize.toNat⟩)

-- The assets that the principal may perform the action on; none when anything fails.
def assets (draw : Run σ Call) (principal action : String) : Run σ (List String) :=
  (client.searchWith draw principal action none).map fun r =>
    if r.result = .ok then r.assets else []

end Client
end AccessControl
