import AccessControl.Proofs.Request
import AccessControl.Session

namespace AccessControl
namespace Client

open Effect

variable {σ : Type} (client : Client σ) (call : Call)

def inquiry? : Operation → Option Inquiry
  | .validate => none
  | .evaluate principal asset action | .check principal asset action =>
    some <| client.evaluationInquiry call principal [⟨asset, action⟩]
  | .batch principal queries =>
    if queries = [] then none else some <| client.evaluationInquiry call principal queries
  | .assets principal action => some <| client.searchInquiry call principal action none
  | .search principal action token pageSize =>
    some <| client.searchInquiry call principal action <|
      some ⟨token, if pageSize = 0 then defaultPageSize else pageSize.toNat⟩

-- The answer of an operation whose inquiry came to the given outcome.
def answerOn (r : Except AccessError Response) : Operation → Answer
  | .validate => .result client.validate
  | .evaluate principal asset action =>
    .decision <| singleDecision call principal ⟨asset, effectiveAction action⟩ r
  | .check principal asset action =>
    .result (singleDecision call principal ⟨asset, effectiveAction action⟩ r).result
  | .batch principal queries =>
    .decisions <| batchDecisions call principal (queries.map Query.effective) r
  | .assets principal action => .lines (searchOutcome call principal action r).assets
  | .search principal action _ _ => .search <| searchOutcome call principal action r

-- A search that failed has found nothing.
theorem searchOutcome_assets (principal action : String) (r : Except AccessError Response) :
    let found := searchOutcome call principal action r
    (if found.result = .ok then found.assets else []) = found.assets := by
  cases r
  case ok response => rfl
  case error e => exact ite_self _

variable {client call} {q : Inquiry} {op : Operation}

theorem perform_inquires (h : client.inquiry? call op = some q) :
    (client.perform call op).Agrees <| (client.inquire call q).map (client.answerOn call · op) := by
  cases op
  case validate => contradiction
  case evaluate principal asset action =>
    cases h
    exact (client.evaluate_inquires call principal asset action).map _
  case check principal asset action =>
    cases h
    exact ((client.evaluate_inquires call principal asset action).map _).map _
  case batch principal queries =>
    have hn : queries ≠ [] := by
      intro hn
      simp [inquiry?, hn] at h
    simp only [inquiry?, if_neg hn, Option.some.injEq] at h
    subst h
    exact (client.evaluateBatch_inquires call principal queries hn).map _
  case assets principal action =>
    cases h
    have ha := (client.searchWith_inquires call principal action none).map fun found =>
      Answer.lines <| if found.result = .ok then found.assets else []
    refine ha.trans { value := ?_, deeds := fun _ => rfl, state := fun _ => rfl }
    exact fun s => congrArg Answer.lines (searchOutcome_assets ..)
  case search principal action token pageSize =>
    cases h
    exact (client.searchWith_inquires call principal action _).map _

-- An operation without an inquiry does nothing that can be seen from outside.
theorem perform_quiet (h : client.inquiry? call op = none) (s : σ) :
    deeds (client.perform call op s).effects = [] := by
  cases op
  case validate => rfl
  case batch principal queries =>
    have hn : queries = [] := by simpa [inquiry?] using h
    simp [perform, evaluateBatch, hn]
  all_goals contradiction

end Client
end AccessControl
