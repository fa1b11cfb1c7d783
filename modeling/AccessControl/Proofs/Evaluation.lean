import AccessControl.Proofs.Checks
import AccessControl.Proofs.Script

namespace AccessControl

structure Account where
  result : Result
  message : Option String
  attempts : Nat
  pauses : Nat
deriving DecidableEq

def Account.of (o : Outcome σ Decision) : Account where
  result := o.value.result
  message := o.value.errorMessage
  attempts := (Effect.attempts o.effects).length
  pauses := (Effect.pauses o.effects).length

-- Nothing but the two words of the service, to the letter, is an answer.
def verdictOn (word : String) : Result × Option String :=
  if word = "Allow" then (.allowed, none)
  else if word = "Deny" then (.denied, none)
  else (.error, some ("unknown decision: " ++ word))

-- What an evaluation comes to whose last attempt came to the given outcome.
def settledBy : Except AccessError Json → Result × Option String
  | .error e => (e.result, some e.message)
  | .ok body =>
    match Response.ofJson body with
    | .error e => (.error, some ("malformed decision response: " ++ e.message))
    | .ok response =>
      match response.decisions with
      | [] => (.error, some "no decisions in response")
      | d :: _ => verdictOn (d.decision.getD "")

-- The account of an evaluation that makes `n` attempts unless a check fails.
def Account.expected (config : Config) (principal asset : String)
    (outcome : Nat → Except AccessError Json) (n : Nat) : Account :=
  match identifierFault? "principal" principal <|> identifierFault? "asset" asset with
  | some message => ⟨.invalidRequest, some message, 0, 0⟩
  | none =>
    match config.fault? with
    | some message => ⟨.configError, some message, 0, 0⟩
    | none => ⟨(settledBy (outcome n)).1, (settledBy (outcome n)).2, n, n - 1⟩

namespace Client

open Effect

theorem judge_eq_verdictOn (word : String) : Decision.judge word = verdictOn word := rfl

-- The decision repeats what settled the request.
theorem singleDecision_reading (call : Call) (principal : String) (q : Query)
    (r : Except AccessError Json) :
    (singleDecision call principal q (reading call r)).result = (settledBy r).1 ∧
      (singleDecision call principal q (reading call r)).errorMessage = (settledBy r).2 := by
  cases r
  case error e => exact ⟨rfl, rfl⟩
  case ok body =>
    cases hb : Response.ofJson body
    case error e =>
      have hr : reading call (.ok body) =
          .error (.unexpected ("malformed decision response: " ++ e.message) call.requestId) := by
        rw [reading, hb]
        rfl
      rw [hr, settledBy, hb]
      exact ⟨rfl, rfl⟩
    case ok response =>
      rw [(reading_eq_ok_iff call).mpr ⟨body, rfl, hb⟩, settledBy, hb]
      cases hd : response.decisions <;>
        simp [hd, singleDecision, Decision.failed, Decision.ofService, judge_eq_verdictOn]

variable (config : Config) (script : Script) (call : Call) (principal asset action : String)

-- The account of an evaluation is that of its inquiry.
theorem account_eq {σ : Type} (client : Client σ) (s : σ) :
    Account.of (client.evaluate call principal asset action s) =
      let o := client.inquire call (client.evaluationInquiry call principal [⟨asset, action⟩]) s
      let d := singleDecision call principal ⟨asset, effectiveAction action⟩ o.value
      ⟨d.result, d.errorMessage, (attempts o.effects).length, (pauses o.effects).length⟩ := by
  have h := client.evaluate_inquires call principal asset action
  simp only [Account.of, h.value, h.attempts, h.pauses, Run.map_value, Run.map_effects]

theorem account_refused {e : AccessError}
    (h : (scripted config).evaluationChecks call principal [asset] = .error e) :
    Account.of ((scripted config).evaluate call principal asset action script) =
      ⟨e.result, some e.message, 0, 0⟩ := by
  rw [account_eq, inquire, evaluationInquiry, List.map_singleton, h, request_refused]
  rfl

theorem account_passed (h : (scripted config).evaluationChecks call principal [asset] = .ok ()) :
    ∃ n, IsLast (fun i => (script.due i).outcome call config.timeout) (RetryPolicy.ofConfig config).attempts n ∧
      Account.of ((scripted config).evaluate call principal asset action script) =
        ⟨(settledBy ((script.due n).outcome call config.timeout)).1,
          (settledBy ((script.due n).outcome call config.timeout)).2, n, n - 1⟩ := by
  have ⟨n, hl, hv, ha, hp⟩ := request_scripted config script call .evaluations
    (evaluationPayload config principal [⟨asset, effectiveAction action⟩])
  have ⟨hr, hm⟩ := singleDecision_reading call principal ⟨asset, effectiveAction action⟩
    ((script.due n).outcome call config.timeout)
  refine ⟨n, hl, ?_⟩
  rw [account_eq, inquire, evaluationInquiry, List.map_singleton, List.map_singleton, h]
  simp only [scripted, Query.effective] at hv ha hp ⊢
  simp [hv, ha, hp, hr, hm]

-- Which attempt is the last does not depend on whether any is made.
theorem exists_last :
    ∃ n, IsLast (fun i => (script.due i).outcome call config.timeout) (RetryPolicy.ofConfig config).attempts n :=
  have ⟨n, hl, _⟩ := execute_scripted config script call .evaluations .null
  ⟨n, hl⟩

theorem account_evaluate :
    ∃ n, IsLast (fun i => (script.due i).outcome call config.timeout) (RetryPolicy.ofConfig config).attempts n ∧
      Account.of ((scripted config).evaluate call principal asset action script) =
        Account.expected config principal asset
          (fun i => (script.due i).outcome call config.timeout) n := by
  have hc := (scripted config).evaluationChecks_eq call principal [asset]
  have hi : identifiersFault? principal [asset] =
      (identifierFault? "principal" principal <|> identifierFault? "asset" asset) := by
    simp [identifiersFault?]
  rw [hi] at hc
  obtain ⟨n, hl⟩ := exists_last config script call
  unfold Account.expected
  cases hf : identifierFault? "principal" principal <|> identifierFault? "asset" asset
  case some message =>
    rw [hf] at hc
    exact ⟨n, hl, account_refused config script call principal asset action hc⟩
  case none =>
    cases hg : config.fault?
    case some message =>
      simp only [hf, scripted, hg] at hc
      exact ⟨n, hl, account_refused config script call principal asset action hc⟩
    case none =>
      simp only [hf, scripted, hg] at hc
      exact account_passed config script call principal asset action hc

-- Two failures that pass, and then an answer: three attempts with two pauses between them.
example :
    let denial : Json := .object [("decisions", .array [.object [("decision", .string "Deny")]])]
    let call : Call := ⟨⟨"r"⟩, 0⟩
    Account.of ((scripted { apiUrl := "localhost", apiToken := "token" }).evaluate call "alice"
      "/bin/ls" "" [.failure .timedOut, .status 503 none, .success denial]) =
        ⟨.denied, none, 3, 2⟩ := by
  decide +kernel

end Client
end AccessControl
