import AccessControl.Client

namespace AccessControl

-- What is wrong with an identifier of the given kind.
def identifierFault? (kind value : String) : Option String :=
  if value.toList.all Text.isBlank then some (kind ++ " id must not be empty")
  else if 255 < value.length then some (kind ++ " id exceeds 255 characters")
  else none

def Config.fault? (c : Config) : Option String :=
  if c.apiUrl = "" then some "invalid config: api_url is required"
  else if c.apiToken = "" then some "invalid config: api_token is required"
  else none

theorem checkIdentifier_eq (kind value : String) (id : RequestId) :
    checkIdentifier kind value id =
      match identifierFault? kind value with
      | some message => .error (.invalidRequest message id)
      | none => .ok () := by
  have hm : kind ++ " id exceeds " ++ toString maxIdentifier ++ " characters" =
      kind ++ " id exceeds 255 characters" := by
    rw [String.append_assoc, String.append_assoc]
    rfl
  rw [checkIdentifier, identifierFault?, Text.isBlankText, hm, maxIdentifier]
  by_cases hb : value.toList.all Text.isBlank
  case pos => rw [if_pos hb, if_pos hb]
  case neg =>
    rw [if_neg hb, if_neg hb]
    by_cases hl : 255 < value.length
    case pos => rw [if_pos hl, if_pos hl]
    case neg => rw [if_neg hl, if_neg hl]

theorem identifierFault?_eq_none_iff {kind value : String} :
    identifierFault? kind value = none ↔ isIdentifier value = true := by
  rw [identifierFault?, isIdentifier, Text.isBlankText, maxIdentifier]
  by_cases hb : value.toList.all Text.isBlank
  case pos => simp [hb]
  case neg =>
    rw [if_neg hb]
    by_cases hl : 255 < value.length
    case pos => simp [hl]
    case neg => simp [hb, hl, Nat.not_lt.mp hl]

theorem Config.fault?_eq_none_iff {c : Config} : c.fault? = none ↔ c.isValid = true := by
  by_cases hu : c.apiUrl = "" <;> by_cases ht : c.apiToken = "" <;> simp [fault?, isValid, hu, ht]

-- No failure is an answer.
theorem AccessError.result_isError (e : AccessError) : e.result.isError = true := by
  unfold result
  cases e.kind <;> rfl

-- The fault of the identifiers of an evaluation, the principal before the assets.
def identifiersFault? (principal : String) (assets : List String) : Option String :=
  identifierFault? "principal" principal <|> assets.findSome? (identifierFault? "asset")

theorem identifiersFault?_eq_none_iff {principal : String} {assets : List String} :
    identifiersFault? principal assets = none ↔
      isIdentifier principal = true ∧ ∀ a ∈ assets, isIdentifier a = true := by
  simp [identifiersFault?, Option.or_eq_none_iff, List.findSome?_eq_none_iff, identifierFault?_eq_none_iff]

namespace Client

variable {σ : Type} (client : Client σ) (call : Call) (principal : String) (assets : List String)

theorem ensureConfigured_eq :
    client.ensureConfigured call.requestId =
      match client.config.fault? with
      | some message => .error (.config message call.requestId)
      | none => .ok () := by
  simp only [ensureConfigured, Config.validate, Config.fault?, String.isEmpty_iff]
  by_cases hu : client.config.apiUrl = ""
  case pos => rw [if_pos hu, if_pos hu]; rfl
  case neg =>
    rw [if_neg hu, if_neg hu]
    by_cases ht : client.config.apiToken = ""
    case pos => rw [if_pos ht, if_pos ht]; rfl
    case neg => rw [if_neg ht, if_neg ht]; rfl

theorem forM_checkIdentifier (id : RequestId) :
    assets.forM (fun a => checkIdentifier "asset" a id) =
      match assets.findSome? (identifierFault? "asset") with
      | some message => .error (.invalidRequest message id)
      | none => .ok () := by
  induction assets
  case nil => rfl
  case cons a assets hi =>
    rw [List.forM_eq_forM, List.forM_cons, checkIdentifier_eq, ← List.forM_eq_forM, hi, List.findSome?_cons]
    cases identifierFault? "asset" a <;> rfl

theorem evaluationChecks_eq :
    client.evaluationChecks call principal assets =
      match identifiersFault? principal assets with
      | some message => .error (.invalidRequest message call.requestId)
      | none =>
        match client.config.fault? with
        | some message => .error (.config message call.requestId)
        | none => .ok () := by
  rw [evaluationChecks, checkIdentifier_eq, forM_checkIdentifier, ensureConfigured_eq, identifiersFault?]
  cases identifierFault? "principal" principal
  case some => rfl
  case none => cases assets.findSome? (identifierFault? "asset") <;> rfl

-- The checks are passed by identifiers under a configuration that can be used, and by nothing else.
theorem evaluationChecks_eq_ok_iff :
    client.evaluationChecks call principal assets = .ok () ↔
      isIdentifier principal = true ∧ (∀ a ∈ assets, isIdentifier a = true) ∧
        client.config.isValid = true := by
  rw [evaluationChecks_eq, ← Config.fault?_eq_none_iff, ← and_assoc, ← identifiersFault?_eq_none_iff]
  cases identifiersFault? principal assets
  case some => simp
  case none => cases client.config.fault? <;> simp

end Client
end AccessControl
