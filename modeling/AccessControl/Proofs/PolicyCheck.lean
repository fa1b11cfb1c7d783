import AccessControl.Host.Adapter
import AccessControl.Proofs.Answers
import AccessControl.Proofs.Script

namespace AccessControl

-- The payload names the principal and asks these questions, in this order.
def Asks (payload : Json) (principal : String) (qs : List Query) : Prop :=
  (payload.get? "principal").bind (·.get? "id") = some (.string principal) ∧
    ∃ items, payload.get? "queries" = some (.array items) ∧
      items.map (fun q => (q.get? "assetId", q.get? "action")) =
        qs.map fun q => (some (.string q.asset), some (.string q.action))

theorem Query.get?_toJson (key : String) (q : Query) :
    (q.toJson key).get? "assetId" = some (.string q.asset) ∧
      (q.toJson key).get? "action" = some (.string q.action) := by
  unfold toJson
  split <;> exact ⟨rfl, rfl⟩

theorem asks_evaluationPayload (config : Config) (principal : String) (qs : List Query) :
    Asks (evaluationPayload config principal qs) principal qs := by
  have hp : (evaluationPayload config principal qs).get? "principal" =
      some (.ofMembers [("id", .string principal)]) := rfl
  have hq : (evaluationPayload config principal qs).get? "queries" =
      some (.array <| qs.map (·.toJson config.assetAttribute)) := rfl
  refine ⟨by rw [hp]; rfl, _, hq, ?_⟩
  simp [Query.get?_toJson]

-- The attempts came to this answer: failures that pass, and then a body that holds it.
def Answered (config : Config) (script : Script) (call : Call) (response : Response) : Prop :=
  ∃ n body, 0 < n ∧ n ≤ (RetryPolicy.ofConfig config).attempts ∧
    (∀ i, 0 < i → i < n → IsTransient ((script.due i).outcome call config.timeout)) ∧
    (script.due n).outcome call config.timeout = .ok body ∧ Response.ofJson body = .ok response

theorem answered_iff {config : Config} {script : Script} {call : Call} {n : Nat} {response : Response}
    (h : IsLast (fun i => (script.due i).outcome call config.timeout) (RetryPolicy.ofConfig config).attempts n) :
    Answered config script call response ↔
      Client.reading call ((script.due n).outcome call config.timeout) = .ok response := by
  rw [Client.reading_eq_ok_iff]
  constructor
  case mp =>
    rintro ⟨k, body, hp, hl, hb, ho, hr⟩
    have hn : n = k := h.eq_of_final hp hl hb (by simp [ho, IsTransient])
    exact ⟨body, hn ▸ ho, hr⟩
  case mpr =>
    rintro ⟨body, ho, hr⟩
    exact ⟨n, body, h.pos, h.le, h.before, ho, hr⟩

namespace Host

-- The program under `sudo`, and every argument that is not empty under the program.
def questions : List String → List Query
  | [] => []
  | program :: args => ⟨program, "sudo"⟩ :: (args.filter (· ≠ "")).map fun arg => ⟨arg, program⟩

-- There is a command, and whoever and whatever it names can be asked about.
structure Askable (command : List String) (context : Context) : Prop where
  nonempty : command ≠ []
  principal : isIdentifier context.principal = true
  assets : ∀ q ∈ questions command, isIdentifier q.asset = true

theorem effectiveAction_of_isIdentifier {action : String} (h : isIdentifier action = true) :
    effectiveAction action = action := by
  simp only [isIdentifier, Bool.and_eq_true, Bool.not_eq_true'] at h
  simp [effectiveAction, h.left]

theorem questions_effective {program : String} (args : List String) (h : isIdentifier program = true) :
    (questions (program :: args)).map Query.effective = questions (program :: args) := by
  have hs : effectiveAction "sudo" = "sudo" := by decide +kernel
  simp [questions, Query.effective, hs, effectiveAction_of_isIdentifier h, Function.comp_def]

namespace Adapter

open Effect

variable {σ : Type} (adapter : Adapter σ) (call : Call) (principal program : String)
  (args : List String) (s : σ)

theorem questions_cons :
    questions (program :: args) = queries program (args.filter (· ≠ "")) := rfl

theorem filter_nonempty : args.filter (!·.isEmpty) = args.filter (· ≠ "") := by
  congr 1
  funext arg
  by_cases h : arg = "" <;> simp [h]

-- One question or several, a command is decided by one request for all it raises.
theorem decide_inquires :
    let r := adapter.client.inquire call
      (adapter.client.evaluationInquiry call principal (questions (program :: args))) s
    let o := adapter.decide call principal program args s
    attempts o.effects = attempts r.effects ∧
      combinedResult o.value =
        combinedResult (Client.batchDecisions call principal
          ((questions (program :: args)).map Query.effective) r.value) := by
  rw [decide, filter_nonempty, questions_cons]
  cases hf : args.filter (· ≠ "")
  case nil =>
    -- A lone question goes through a single evaluation, whose inquiry is the same
    have h := adapter.client.evaluate_inquires call principal program sudoAction
    refine ⟨h.attempts s, ?_⟩
    rw [Run.map_value, h.value, Run.map_value, combinedResult, combinedResult, List.map_singleton,
      Client.singleDecision_result]
    rfl
  case cons arg rest =>
    have hq : queries program (arg :: rest) ≠ [] := List.cons_ne_nil _ _
    have h := adapter.client.evaluateBatch_inquires call principal _ hq
    exact ⟨h.attempts s, congrArg combinedResult (h.value s)⟩

theorem checkPolicy_eq {context : Context} (h : isIdentifier context.principal = true) :
    let o := adapter.decide call context.principal program args s
    let c := adapter.checkPolicy call (program :: args) context s
    attempts c.effects = attempts o.effects ∧ c.value.result = combinedResult o.value := by
  simp [checkPolicy, h]

end Adapter

-- What a check does not let through is not sent, and comes to an error.
theorem inquiry_refused {σ : Type} (client : Client σ) (call : Call) (principal : String)
    (qs : List Query) (s : σ)
    (h : ¬(isIdentifier principal = true ∧ ∀ q ∈ qs, isIdentifier q.asset = true)) :
    ∃ e, client.inquire call (client.evaluationInquiry call principal qs) s = ⟨.error e, [], s⟩ := by
  have hi : identifiersFault? principal (qs.map (·.asset)) ≠ none := by
    rw [Ne, identifiersFault?_eq_none_iff]
    simpa using h
  have ⟨message, hm⟩ := Option.ne_none_iff_exists'.mp hi
  refine ⟨.invalidRequest message call.requestId, ?_⟩
  rw [Client.inquire, Client.evaluationInquiry, Client.evaluationChecks_eq, hm, Client.request_refused]

theorem inquiry_scripted (config : Config) (script : Script) (call : Call) (principal : String)
    (qs : List Query) (valid : config.isValid = true) (hp : isIdentifier principal = true)
    (hq : ∀ q ∈ qs, isIdentifier q.asset = true) :
    let o := (Client.scripted config).inquire call
      ((Client.scripted config).evaluationInquiry call principal qs) script
    (∀ response, o.value = .ok response ↔ Answered config script call response) ∧
      ∀ a ∈ Effect.attempts o.effects,
        a = (Client.scripted config).attemptOf call .evaluations
          (evaluationPayload config principal (qs.map Query.effective)) := by
  have hi : identifiersFault? principal (qs.map (·.asset)) = none := by
    rw [identifiersFault?_eq_none_iff]
    simpa using ⟨hp, hq⟩
  have hc := (Client.scripted config).evaluationChecks_eq call principal (qs.map (·.asset))
  simp only [hi, Client.scripted, Config.fault?_eq_none_iff.mpr valid] at hc
  have ⟨n, hl, hv, ha, _⟩ := Client.request_scripted config script call .evaluations
    (evaluationPayload config principal (qs.map Query.effective))
  unfold Client.inquire Client.evaluationInquiry
  simp only [Client.scripted] at hv ha ⊢
  rw [hc]
  constructor
  case left =>
    intro response
    rw [hv, answered_iff hl]
  case right =>
    intro a h
    rw [ha] at h
    exact List.eq_of_mem_replicate h

-- The service was reached, and its first words are all to allow.
def Granted (config : Config) (script : Script) (call : Call) (command : List String) : Prop :=
  ∃ response, Answered config script call response ∧
    ∀ i, i < (questions command).length → response.wordAt? i = some "Allow"

-- The service was reached, and its first word that is not to allow is to deny.
def Refused (config : Config) (script : Script) (call : Call) (command : List String) : Prop :=
  ∃ response, Answered config script call response ∧
    ∃ i, i < (questions command).length ∧ response.wordAt? i = some "Deny" ∧
      ∀ j, j < i → response.wordAt? j = some "Allow"

def Adapter.scripted (config : Config) (valid : config.isValid = true) : Adapter Script where
  client := Client.scripted config
  configured := valid

section Check

variable (config : Config) (valid : config.isValid = true) (script : Script) (call : Call)
  (command : List String) (context : Context)

theorem checkPolicy_unaskable (h : ¬Askable command context) :
    let o := (Adapter.scripted config valid).checkPolicy call command context script
    o.value.result ≠ .allowed ∧ o.value.result ≠ .denied ∧ Effect.attempts o.effects = [] := by
  cases command
  case nil => simp [Adapter.checkPolicy]
  case cons program args =>
    by_cases hp : isIdentifier context.principal
    case neg => simp [Adapter.checkPolicy, hp]
    case pos =>
      have hq : ¬(isIdentifier context.principal = true ∧
          ∀ q ∈ questions (program :: args), isIdentifier q.asset = true) := by
        intro ⟨_, hq⟩
        exact h { nonempty := by simp, principal := hp, assets := hq }
      have ⟨e, he⟩ := inquiry_refused (Client.scripted config) call _ _ script hq
      have ⟨ha, hr⟩ := (Adapter.scripted config valid).checkPolicy_eq call program args script hp
      have ⟨hd, hc⟩ := (Adapter.scripted config valid).decide_inquires call context.principal program args script
      have hn : (questions (program :: args)).map Query.effective ≠ [] := by simp [questions]
      have hi := e.result_isError
      simp only [Adapter.scripted] at ha hr hd hc ⊢
      rw [he] at hd hc
      rw [ha, hd, hr, hc, Client.combinedResult_batch_error _ _ _ hn]
      refine ⟨?_, ?_, rfl⟩ <;>
        · intro h
          simp [h, Result.isError] at hi

theorem checkPolicy_askable (h : Askable command context) :
    let o := (Adapter.scripted config valid).checkPolicy call command context script
    (o.value.result = .allowed ↔ Granted config script call command) ∧
      (o.value.result = .denied ↔ Refused config script call command) ∧
      ∀ a ∈ Effect.attempts o.effects,
        a.endpoint = .evaluations ∧ Asks a.payload context.principal (questions command) := by
  have ⟨program, args, hc⟩ := List.exists_cons_of_ne_nil h.nonempty
  subst hc
  have hp : isIdentifier program = true := h.assets ⟨program, "sudo"⟩ (by simp [questions])
  have he := questions_effective args hp
  have hn : questions (program :: args) ≠ [] := by simp [questions]
  have ⟨ha, hr⟩ := (Adapter.scripted config valid).checkPolicy_eq call program args script h.principal
  have ⟨hd, hc⟩ := (Adapter.scripted config valid).decide_inquires call context.principal program args script
  have ⟨hv, hs⟩ := inquiry_scripted config script call _ _ valid h.principal h.assets
  rw [he] at hc hs
  simp only [Adapter.scripted] at ha hr hd hc ⊢
  refine ⟨?_, ?_, ?_⟩
  · rw [hr, hc, Client.combinedResult_batch_eq_allowed_iff _ _ hn]
    simp only [hv, Granted]
  · rw [hr, hc, Client.combinedResult_batch_eq_denied_iff _ _ hn]
    simp only [hv, Refused]
  · intro a hm
    rw [ha, hd] at hm
    rw [hs a hm]
    exact ⟨rfl, asks_evaluationPayload ..⟩

end Check

theorem checkPolicy_verdict (config : Config) (valid : config.isValid = true) (script : Script)
    (call : Call) (command : List String) (context : Context) :
    let o := (Adapter.scripted config valid).checkPolicy call command context script
    (o.value.verdict = .accept ↔ Askable command context ∧ Granted config script call command) ∧
      (o.value.verdict = .reject ↔ Askable command context ∧ Refused config script call command) ∧
      (∀ a ∈ Effect.attempts o.effects,
        a.endpoint = .evaluations ∧ Asks a.payload context.principal (questions command)) ∧
      (¬Askable command context → Effect.attempts o.effects = []) := by
  simp only [Adapter.verdict_checkPolicy, Result.verdict_eq_accept_iff, Result.verdict_eq_reject_iff]
  by_cases h : Askable command context
  case pos =>
    have ⟨ha, hd, hs⟩ := checkPolicy_askable config valid script call command context h
    simp only [h, true_and, not_true_eq_false, false_implies, and_true]
    exact ⟨ha, hd, hs⟩
  case neg =>
    have ⟨ha, hd, hs⟩ := checkPolicy_unaskable config valid script call command context h
    simp [ha, hd, hs, h]

-- A time limit passed, and then both questions allowed: the command may be run.
theorem checkPolicy_verdict_granted :
    let config : Config := { apiUrl := "http://localhost", apiToken := "token" }
    let allow : Json := .object [("decision", .string "Allow")]
    let script : Script :=
      [.failure .timedOut, .success <| .object [("decisions", .array [allow, allow])]]
    let call : Call := ⟨⟨"r"⟩, 0⟩
    ∃ valid : config.isValid = true,
      ((Adapter.scripted config valid).checkPolicy call ["/bin/ls", "", "-l"] (.forUser "alice")
        script).value.verdict = .accept := by
  intro config allow script call
  have valid : config.isValid = true := by decide +kernel
  have ⟨ha, _⟩ := checkPolicy_verdict config valid script call ["/bin/ls", "", "-l"] (.forUser "alice")
  have hp : isIdentifier (Context.forUser "alice").principal = true := by decide +kernel
  have hq : ∀ q ∈ questions ["/bin/ls", "", "-l"], isIdentifier q.asset = true := by decide +kernel
  have hg : Granted config script call ["/bin/ls", "", "-l"] := by
    let d : ServiceDecision := ⟨some "Allow", none, none, []⟩
    refine ⟨⟨[d, d], none⟩, ⟨2, _, by decide, by decide, ?_, rfl, rfl⟩, by decide⟩
    intro i hp hl
    have hi : i = 1 := by omega
    subst hi
    exact .inl rfl
  exact ⟨valid, ha.mpr ⟨⟨by simp, hp, hq⟩, hg⟩⟩

end Host
end AccessControl
