import AccessControl.Json.Error

namespace AccessControl

-- The members that have no name here are the attributes.
structure ServiceDecision where
  decision : Option String
  reason : Option String
  assetId : Option String
  attributes : List (String × Json)
deriving Repr, Inhabited

structure Response where
  decisions : List ServiceDecision
  nextPageToken : Option String
deriving Repr, Inhabited

namespace Response

open Json (ReadError)

-- A string, where null and absence both stand for none.
def optionalText : Option Json → Except ReadError (Option String)
  | none | some .null => .ok none
  | some (.string s) => .ok (some s)
  | some v => .error (.wrongType (.of v) .text)

def namedMembers : List String := ["assetId", "decision", "reason"]

def decisionOf : Json → Except ReadError ServiceDecision
  | .object ms => do
    let assetId ← optionalText (ms.lookup "assetId")
    let decision ← optionalText (ms.lookup "decision")
    let reason ← optionalText (ms.lookup "reason")
    return { decision, reason, assetId,
             attributes := ms.filter fun m => !namedMembers.contains m.1 }
  | v => .error (.wrongType (.of v) .decision)

def decisionsOf : Option Json → Except ReadError (List ServiceDecision)
  | none | some .null => .ok []
  | some (.array items) => items.mapM decisionOf
  | some v => .error (.wrongType (.of v) .sequence)

-- An object with members of these names, or a list of the two in this order.
def ofJson : Json → Except ReadError Response
  | .object ms => do
    let decisions ← decisionsOf (ms.lookup "decisions")
    let nextPageToken ← optionalText (ms.lookup "nextPageToken")
    return { decisions, nextPageToken }
  | .array items => do
    let decisions ← decisionsOf items[0]?
    let nextPageToken ← optionalText items[1]?
    if 2 < items.length then throw (.tooLong items.length)
    return { decisions, nextPageToken }
  | v => .error (.wrongType (.of v) .response)

end Response
end AccessControl
