import AccessControl.Decision.Response
import AccessControl.Error
import AccessControl.Json.Writer

namespace AccessControl

structure Decision where
  principal : String
  asset : String
  action : String
  -- The word of the service, empty when there was none.
  word : String
  reason : String
  call : Call
  result : Result
  errorMessage : Option String
  attributes : List (String × Json)
deriving Repr, Inhabited

namespace Decision

-- The words that grant and refuse, matched to the letter.
def allowWord : String := "Allow"

def denyWord : String := "Deny"

def judge (word : String) : Result × Option String :=
  if word = allowWord then (.allowed, none)
  else if word = denyWord then (.denied, none)
  else (.error, some ("unknown decision: " ++ word))

def failed (principal asset action : String) (call : Call) (result : Result) (message : String) :
    Decision :=
  { principal, asset, action, call, result
    word := ""
    reason := ""
    errorMessage := some message
    attributes := [] }

-- A failure carries the identifier of the error that caused it.
def ofError (principal asset action : String) (call : Call) (e : AccessError) : Decision :=
  failed principal asset action { call with requestId := e.requestId } e.result e.message

def ofService (principal asset action : String) (call : Call) (d : ServiceDecision) : Decision :=
  let word := d.decision.getD ""
  { principal, asset, action, call, word
    result := (judge word).1
    reason := d.reason.getD ""
    errorMessage := (judge word).2
    attributes := d.attributes }

def isAllowed (d : Decision) : Bool := d.result = .allowed

def isDenied (d : Decision) : Bool := d.result = .denied

def isError (d : Decision) : Bool := d.result.isError

def verdict (d : Decision) : Verdict := d.result.verdict

def toJson (d : Decision) : Json :=
  .ofMembers
    [("principal_id", .string d.principal),
      ("asset_id", .string d.asset),
      ("action", .string d.action),
      ("decision", .string d.word),
      ("reason", .string d.reason),
      ("request_id", .string d.call.requestId.text),
      ("timestamp_ms", .nat d.call.time),
      ("result", .string d.result.name),
      ("error_message", .ofOption d.errorMessage),
      ("attributes", .ofMembers d.attributes)]

end Decision

def combinedResult (ds : List Decision) : Result :=
  Result.combined (ds.map (·.result))

structure SearchResult where
  principal : String
  action : String
  -- The assets allowed, in the order of the answer.
  assets : List String
  nextPageToken : Option String
  hasMorePages : Bool
  call : Call
  result : Result
  errorMessage : Option String
deriving Repr, Inhabited

namespace SearchResult

def failed (principal action : String) (call : Call) (e : AccessError) : SearchResult :=
  { principal, action
    assets := []
    nextPageToken := none
    hasMorePages := false
    call := { call with requestId := e.requestId }
    result := e.result
    errorMessage := some e.message }

def ofResponse (principal action : String) (call : Call) (r : Response) : SearchResult :=
  let nextPageToken := r.nextPageToken.filter (!·.isEmpty)
  { principal, action, call, nextPageToken
    assets :=
      (r.decisions.filter (·.decision = some Decision.allowWord)).filterMap (·.assetId)
    hasMorePages := nextPageToken.isSome
    result := .ok
    errorMessage := none }

def toJson (r : SearchResult) : Json :=
  .ofMembers
    [("principal_id", .string r.principal),
      ("action", .string r.action),
      ("asset_ids", .array (r.assets.map .string)),
      ("next_page_token", .ofOption r.nextPageToken),
      ("has_more_pages", .bool r.hasMorePages),
      ("request_id", .string r.call.requestId.text),
      ("result", .string r.result.name),
      ("error_message", .ofOption r.errorMessage)]

end SearchResult
end AccessControl
