import AccessControl.Proofs.Drawing
import AccessControl.Proofs.Operation
import AccessControl.Proofs.PolicyCheck
import Mathlib.Data.List.Forall2

namespace AccessControl

structure Decision.IsCoherent (d : Decision) : Prop where
  allowed : d.result = .allowed ↔ d.word = "Allow"
  denied : d.result = .denied ↔ d.word = "Deny"
  message : d.errorMessage.isSome = true ↔ d.result.isError = true
  ne_ok : d.result ≠ .ok
  ne_memoryError : d.result ≠ .memoryError

-- The decision is on this question of this principal.
structure Decision.Answers (d : Decision) (principal : String) (q : Query) : Prop
    extends d.IsCoherent where
  principal : d.principal = principal
  asset : d.asset = q.asset
  action : d.action = q.action

structure SearchResult.IsCoherent (r : SearchResult) : Prop where
  result : r.result = .ok ∨ (r.result.isError = true ∧ r.result ≠ .memoryError)
  failed : r.result.isError = true →
    r.assets = [] ∧ r.nextPageToken = none ∧ r.errorMessage.isSome = true
  succeeded : r.result = .ok → r.errorMessage = none
  pages : r.hasMorePages = true ↔ ∃ token, r.nextPageToken = some token
  token : ∀ token, r.nextPageToken = some token → token ≠ ""

structure Host.PolicyCheck.IsCoherent (c : PolicyCheck) : Prop where
  verdict : c.verdict = c.result.verdict
  combined : c.verdict = (combinedResult c.decisions).verdict
  accepted : c.verdict = .accept → c.decisions ≠ [] ∧ ∀ d ∈ c.decisions, d.result = .allowed

theorem AccessError.result_ne_ok (e : AccessError) : e.result ≠ .ok := by
  unfold result
  cases e.kind <;> exact nofun

theorem AccessError.result_ne_memoryError (e : AccessError) : e.result ≠ .memoryError := by
  unfold result
  cases e.kind <;> exact nofun

namespace Decision

theorem failed_answers {principal asset action message : String} {call : Call} {r : Result}
    (he : r.isError = true) (hm : r ≠ .memoryError) :
    (failed principal asset action call r message).Answers principal ⟨asset, action⟩ := by
  refine { allowed := ?allowed, denied := ?denied, message := by simp [failed, he], ne_ok := ?ok,
           ne_memoryError := hm, principal := rfl, asset := rfl, action := rfl }
  all_goals cases r <;> simp_all [failed, Result.isError]

theorem ofError_answers {principal asset action : String} {call : Call} (e : AccessError) :
    (ofError principal asset action call e).Answers principal ⟨asset, action⟩ :=
  failed_answers e.result_isError e.result_ne_memoryError

theorem ofService_answers {principal asset action : String} {call : Call} (d : ServiceDecision) :
    (ofService principal asset action call d).Answers principal ⟨asset, action⟩ := by
  refine { allowed := Response.judge_eq_allowed_iff, denied := Response.judge_eq_denied_iff,
           message := ?message, ne_ok := ?ok, ne_memoryError := ?memory,
           principal := rfl, asset := rfl, action := rfl }
  all_goals
    unfold ofService judge
    dsimp only
    split
  case message.isTrue | ok.isTrue | memory.isTrue => simp [Result.isError]
  all_goals split <;> simp [Result.isError]

end Decision

namespace Client

variable (call : Call) (principal : String)

theorem singleDecision_answers (q : Query) (v : Except AccessError Response) :
    (singleDecision call principal q v).Answers principal q := by
  cases v
  case error e => exact Decision.ofError_answers e
  case ok response =>
    cases h : response.decisions <;> simp only [singleDecision, h]
    case nil => exact Decision.failed_answers rfl (by decide)
    case cons d _ => exact Decision.ofService_answers d

theorem alignDecisions_answers (qs : List Query) (ds : List ServiceDecision) :
    List.Forall₂ (fun q d => d.Answers principal q) qs (alignDecisions call principal qs ds) := by
  induction qs generalizing ds
  case nil => exact .nil
  case cons q qs hi =>
    cases ds
    case nil => exact .cons (Decision.failed_answers rfl (by decide)) (hi [])
    case cons d ds => exact .cons (Decision.ofService_answers d) (hi ds)

theorem batchDecisions_answers (qs : List Query) (v : Except AccessError Response) :
    List.Forall₂ (fun q d => d.Answers principal q) qs (batchDecisions call principal qs v) := by
  cases v
  case error e =>
    refine List.forall₂_map_right_iff.mpr <| List.forall₂_same.mpr ?_
    exact fun q _ => Decision.ofError_answers e
  case ok response => exact alignDecisions_answers call principal qs response.decisions

theorem searchOutcome_isCoherent (action : String) (v : Except AccessError Response) :
    (searchOutcome call principal action v).IsCoherent := by
  cases v
  case error e =>
    exact {
      result := .inr ⟨e.result_isError, e.result_ne_memoryError⟩
      failed := fun _ => ⟨rfl, rfl, rfl⟩
      succeeded := fun h => absurd h e.result_ne_ok
      pages := ⟨nofun, nofun⟩
      token := nofun }
  case ok response =>
    exact {
      result := .inl rfl
      failed := fun h => absurd h Bool.false_ne_true
      succeeded := fun _ => rfl
      pages := Option.isSome_iff_exists
      token := fun token h => by simpa using (Option.filter_eq_some_iff.mp h).right }

variable {σ : Type} (client : Client σ) (draw : Run σ Call) (s : σ)

theorem evaluate_answers (asset action : String) :
    (client.evaluate draw principal asset action s).value.Answers principal
      ⟨asset, effectiveAction action⟩ := by
  rw [evaluate_draws, Run.bind_value, (client.evaluate_inquires _ principal asset action).value]
  exact singleDecision_answers ..

theorem evaluateBatch_answers (queries : List Query) :
    List.Forall₂ (fun q d => d.Answers principal q) (queries.map Query.effective)
      (client.evaluateBatch draw principal queries s).value := by
  by_cases h : queries = []
  case pos => simp [h, evaluateBatch]
  case neg =>
    rw [evaluateBatch_draws, Run.bind_value, (client.evaluateBatch_inquires _ principal queries h).value]
    exact batchDecisions_answers ..

theorem searchWith_isCoherent (action : String) (page : Option Page) :
    (client.searchWith draw principal action page s).value.IsCoherent := by
  rw [searchWith_draws, Run.bind_value, (client.searchWith_inquires _ principal action page).value]
  exact searchOutcome_isCoherent ..

end Client

theorem combinedResult_eq_allowed_iff {ds : List Decision} :
    combinedResult ds = .allowed ↔ ds ≠ [] ∧ ∀ d ∈ ds, d.result = .allowed := by
  by_cases hn : ds = []
  case pos => simp [hn, combinedResult, Result.combined]
  case neg =>
    rw [combinedResult, Result.combined_eq_allowed_iff (by simpa using hn), and_iff_right hn,
      List.forall_mem_iff_forall_getElem]
    refine forall_congr' fun i => ?_
    simp +contextual

namespace Host

-- The result of a check need not be that of its decisions, but it leads to the same verdict.
theorem PolicyCheck.isCoherent_ofResult {principal message : String} {result : Result}
    {decisions : List Decision} (h : result.verdict = (combinedResult decisions).verdict) :
    (ofResult principal result message decisions).IsCoherent where
  verdict := rfl
  combined := h
  accepted := fun ha => combinedResult_eq_allowed_iff.mp <| Result.verdict_eq_accept_iff.mp <| h ▸ ha

namespace Adapter

variable {σ : Type} (adapter : Adapter σ) (draw : Run σ Call) (s : σ)

theorem decide_answers (principal program : String) (args : List String) :
    List.Forall₂ (fun q d => d.Answers principal q) ((questions (program :: args)).map Query.effective)
      (adapter.decide draw principal program args s).value := by
  rw [decide, filter_nonempty, questions_cons]
  cases args.filter (· ≠ "")
  case nil => exact .cons (adapter.client.evaluate_answers principal draw s program sudoAction) .nil
  case cons arg rest => exact adapter.client.evaluateBatch_answers principal draw s _

theorem checkPolicy_isCoherent (command : List String) (context : Context) :
    (adapter.checkPolicy draw command context s).value.IsCoherent := by
  cases command
  case nil => exact PolicyCheck.isCoherent_ofResult rfl
  case cons program args =>
    unfold checkPolicy
    by_cases h : isIdentifier context.principal
    case pos =>
      simp only [h, if_true]
      exact PolicyCheck.isCoherent_ofResult rfl
    case neg =>
      simp only [h]
      exact PolicyCheck.isCoherent_ofResult rfl

-- There is a decision on every question of the command, unless nothing could be asked.
theorem checkPolicy_answers (command : List String) (context : Context) :
    let c := (adapter.checkPolicy draw command context s).value
    c.principal = context.principal ∧
      if command = [] ∨ isIdentifier context.principal = false then c.decisions = []
      else List.Forall₂ (fun q d => d.Answers context.principal q)
        ((questions command).map Query.effective) c.decisions := by
  cases command
  case nil => simp [checkPolicy]
  case cons program args =>
    by_cases h : isIdentifier context.principal
    case pos =>
      have hd := adapter.decide_answers draw s context.principal program args
      simpa [checkPolicy, h] using hd
    case neg => simp [checkPolicy, h]

end Adapter
end Host

-- The answer is one that the operation may give.
def Answer.Suits : HostOperation → Answer → Prop
  | .client .validate, .result r => r = .ok ∨ r = .configError
  | .client (.evaluate principal asset action), .decision d =>
    d.Answers principal ⟨asset, effectiveAction action⟩
  | .client (.check ..), .result r => r ≠ .ok ∧ r ≠ .memoryError
  | .client (.batch principal queries), .decisions ds =>
    List.Forall₂ (fun q d => d.Answers principal q) (queries.map Query.effective) ds
  | .client (.search ..), .search r => r.IsCoherent
  | .checkPolicy command context, .policy c =>
    c.IsCoherent ∧ c.principal = context.principal ∧
      if command = [] ∨ isIdentifier context.principal = false then c.decisions = []
      else List.Forall₂ (fun q d => d.Answers context.principal q)
        ((Host.questions command).map Query.effective) c.decisions
  | .client (.assets ..), .lines _ | .list .., .lines _ | .listAllowed _, .lines _
  | .version _, .lines _ | .validateConfig, .flag _ => True
  | _, _ => False

variable {σ : Type}

theorem Client.perform_suits (client : Client σ) (draw : Run σ Call) (op : Operation) (s : σ) :
    (client.perform draw op s).value.Suits (.client op) := by
  cases op
  case validate =>
    show client.validate = .ok ∨ client.validate = .configError
    unfold validate
    split
    case isTrue => exact .inl rfl
    case isFalse => exact .inr rfl
  case evaluate principal asset action => exact client.evaluate_answers principal draw s asset action
  case check principal asset action =>
    have h := client.evaluate_answers principal draw s asset action
    exact ⟨h.ne_ok, h.ne_memoryError⟩
  case batch principal queries => exact client.evaluateBatch_answers principal draw s queries
  case assets principal action => exact trivial
  case search principal action token size => exact client.searchWith_isCoherent principal draw s action _

theorem Host.Adapter.perform_suits (adapter : Adapter σ) (draw : Run σ Call) (op : HostOperation) (s : σ) :
    (adapter.perform draw op s).value.Suits op := by
  cases op
  case client op => exact adapter.client.perform_suits draw op s
  case checkPolicy command context =>
    exact ⟨adapter.checkPolicy_isCoherent draw s command context,
      adapter.checkPolicy_answers draw s command context⟩
  all_goals exact trivial

-- The step is `perform_suits`; the session follows by induction on its operations.
theorem Client.performAll_suits (client : Client σ) (draws : Nat → Run σ Call) (n : Nat)
    (ops : List Operation) (s : σ) :
    List.Forall₂ (fun op answer => answer.Suits (.client op)) ops
      (client.performAll draws n ops s).value := by
  induction ops generalizing n s
  case nil => exact .nil
  case cons op ops hi => exact .cons (client.perform_suits (draws n) op s) (hi (n + 1) _)

theorem Host.Adapter.performAll_suits (adapter : Adapter σ) (draws : Nat → Run σ Call) (n : Nat)
    (ops : List HostOperation) (s : σ) :
    List.Forall₂ (fun op answer => answer.Suits op) ops (adapter.performAll draws n ops s).value := by
  induction ops generalizing n s
  case nil => exact .nil
  case cons op ops hi => exact .cons (adapter.perform_suits (draws n) op s) (hi (n + 1) _)

theorem performAll_answers_coherent (client : Client σ) (adapter : Host.Adapter σ)
    (draws : Nat → Run σ Call) (ops : List Operation) (hostOps : List HostOperation) (s : σ) :
    List.Forall₂ (fun op answer => Answer.Suits (.client op) answer) ops
        (client.performAll draws 0 ops s).value ∧
      List.Forall₂ Answer.Suits hostOps (adapter.performAll draws 0 hostOps s).value :=
  ⟨client.performAll_suits draws 0 ops s, adapter.performAll_suits draws 0 hostOps s⟩

end AccessControl
