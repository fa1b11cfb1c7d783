import AccessControl.Client
import AccessControl.Config.Resolver
import AccessControl.Host.Context

namespace AccessControl
namespace Host

inductive AdapterError
  | invalidConfig (error : ConfigError)
  | loadFailed (path : String)
deriving DecidableEq, Repr

def AdapterError.message : AdapterError → String
  | .invalidConfig e => "invalid configuration: " ++ e.message
  | .loadFailed path => "invalid configuration: failed to load " ++ path

structure PolicyCheck where
  principal : String
  result : Result
  verdict : Verdict
  message : String
  -- The decisions, in the order of the questions.
  decisions : List Decision
deriving Repr, Inhabited

namespace PolicyCheck

def ofResult (principal : String) (result : Result) (message : String) (decisions : List Decision) :
    PolicyCheck :=
  { principal, result, message, decisions
    verdict := result.verdict }

variable (principal : String) (result : Result) (message : String) (decisions : List Decision)

@[simp]
theorem ofResult_principal : (ofResult principal result message decisions).principal = principal := rfl

@[simp]
theorem ofResult_result : (ofResult principal result message decisions).result = result := rfl

@[simp]
theorem ofResult_decisions : (ofResult principal result message decisions).decisions = decisions := rfl

def toJson (c : PolicyCheck) : Json :=
  .ofMembers
    [("principal", .string c.principal),
      ("result", .string c.result.name),
      ("verdict", .string c.verdict.name),
      ("message", .string c.message),
      ("decisions", .array (c.decisions.map (·.toJson)))]

end PolicyCheck

-- The policy adapter of a command-authorization host. The host may run a command only if every question
-- that the command raises is allowed.
structure Adapter (σ : Type) where
  client : Client σ
  configured : client.config.isValid = true

def versionBanner : String :=
  "SGNL sudo policy plugin version " ++ version

-- The action asked for on the program to be run.
def sudoAction : String := "sudo"

namespace Adapter

variable {σ : Type}

def ofClient (client : Client σ) : Except AdapterError (Adapter σ) :=
  match h : client.config.validate with
  | .ok () => .ok ⟨client, Config.validate_eq_ok_iff.1 h⟩
  | .error e => .error (.invalidConfig e)

def load (transport : Transport σ) (r : Resolver) (file : Volume.Reader) (time : Nat) :
    Except AdapterError (Adapter σ) × List Log.Event × Resolver :=
  let (loaded, events, r) := r.load file time
  let adapter :=
    if loaded then ofClient { config := r.config, transport }
    else .error (.loadFailed r.path)
  (adapter, events, r)

variable (adapter : Adapter σ)

-- The questions that a command raises, apart from its empty arguments: the program under the action
-- `sudo`, and each argument under the action that is the program.
def queries (program : String) (args : List String) : List Query :=
  ⟨program, sudoAction⟩ :: args.map fun arg => ⟨arg, program⟩

-- The decisions on a command: a lone program is asked for by itself.
def decide (draw : Run σ Call) (principal program : String) (args : List String) :
    Run σ (List Decision) :=
  match args.filter (!·.isEmpty) with
  | [] => (adapter.client.evaluate draw principal program sudoAction).map fun d => [d]
  | args => adapter.client.evaluateBatch draw principal (queries program args)

def checkMessage (principal program : String) (command : List String) (result : Result) : String :=
  if result = .allowed then "access granted for " ++ principal ++ " to run " ++ program
  else
    "access denied for " ++ principal ++ " to run '" ++ " ".intercalate command ++ "': " ++
      result.description

def checkPolicy (draw : Run σ Call) (command : List String) (context : Context) :
    Run σ PolicyCheck :=
  let principal := context.principal
  match command with
  | [] => pure (.ofResult principal .invalidRequest "no command specified" [])
  | program :: args =>
    if isIdentifier principal then do
      let decisions ← adapter.decide draw principal program args
      let result := combinedResult decisions
      return .ofResult principal result (checkMessage principal program command result) decisions
    else pure (.ofResult principal .invalidRequest "invalid principal in host user info" [])

-- Whatever ends a check, its verdict is settled by its result.
theorem verdict_checkPolicy (draw : Run σ Call) (command : List String) (context : Context) (s : σ) :
    let c := (adapter.checkPolicy draw command context s).value
    c.verdict = c.result.verdict := by
  cases command
  case nil => rfl
  case cons program args =>
    unfold checkPolicy
    by_cases h : isIdentifier context.principal
    case pos =>
      simp only [h, if_true]
      rfl
    case neg =>
      simp only [h]
      rfl

def listAllowed (draw : Run σ Call) (principal : String) : Run σ (List String) :=
  adapter.client.assets draw principal defaultAction

def list (draw : Run σ Call) (command : Option String) (context : Context) : Run σ (List String) :=
  match command with
  | some command =>
    (adapter.client.check draw context.principal command defaultAction).map fun result =>
      if result = .allowed then ["You are allowed to execute '" ++ command ++ "'"]
      else ["You are NOT allowed to execute '" ++ command ++ "'"]
  | none =>
    (adapter.listAllowed draw context.principal).map fun allowed =>
      if allowed.isEmpty then ["No commands are currently allowed."]
      else "Allowed commands:" :: allowed.map ("  - " ++ ·)

def validateConfig : Bool :=
  adapter.client.validate = .ok

def versionLines (verbose : Bool) : List String :=
  let c := adapter.client.config
  versionBanner ::
    if verbose then
      ["  decision service: " ++ c.serviceUrl,
        "  request timeout: " ++ toString (c.timeout / 1000) ++ "s",
        "  retry count: " ++ toString c.retryCount.toNat,
        "  TLS verification: " ++ if c.validateSsl then "enabled" else "disabled"]
    else []

end Adapter
end Host
end AccessControl
