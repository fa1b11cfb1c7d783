import AccessControl.Proofs.Answers
import AccessControl.Proofs.Operation
import AccessControl.Proofs.Script

namespace AccessControl

namespace Response

-- The object for which a list of values is taken.
def named (items : List Json) : Json :=
  .object [("decisions", items[0]?.getD .null), ("nextPageToken", items[1]?.getD .null)]

theorem decisionsOf_getD (v : Option Json) : decisionsOf (some (v.getD .null)) = decisionsOf v := by
  cases v <;> rfl

theorem optionalText_getD (v : Option Json) : optionalText (some (v.getD .null)) = optionalText v := by
  cases v <;> rfl

variable {items : List Json} {body : Json} {r : Response}

theorem ofJson_named :
    ofJson (named items) = (do
      let decisions ← decisionsOf items[0]?
      let nextPageToken ← optionalText items[1]?
      return { decisions, nextPageToken }) := by
  have hd (v w : Json) : [("decisions", v), ("nextPageToken", w)].lookup "decisions" = some v := rfl
  have hn (v w : Json) : [("decisions", v), ("nextPageToken", w)].lookup "nextPageToken" = some w := rfl
  simp only [named, ofJson, hd, hn, decisionsOf_getD, optionalText_getD]

theorem ofJson_array_eq_ok_iff :
    ofJson (.array items) = .ok r ↔ items.length ≤ 2 ∧ ofJson (named items) = .ok r := by
  rw [ofJson_named, ofJson]
  cases decisionsOf items[0]?
  case error e => simp [bind, Except.bind]
  case ok ds =>
    cases optionalText items[1]?
    case error e => simp [bind, Except.bind]
    case ok token =>
      by_cases hl : 2 < items.length
      case pos =>
        have hn : ¬items.length ≤ 2 := by omega
        simp [bind, Except.bind, hl, hn, throw, throwThe, MonadExceptOf.throw]
      case neg =>
        have hn : items.length ≤ 2 := by omega
        simp [bind, Except.bind, hl, hn]

theorem ofJson_unnamed_eq_ok_iff (h : ∀ ms, body ≠ .object ms) :
    ofJson body = .ok r ↔
      ∃ items, body = .array items ∧ items.length ≤ 2 ∧ ofJson (named items) = .ok r := by
  cases body
  case object ms => exact absurd rfl (h ms)
  case array items => simp [ofJson_array_eq_ok_iff]
  all_goals simp [ofJson]

-- The service has decided the question at a place.
def Decides (r : Response) (i : Nat) : Prop :=
  r.wordAt? i = some "Allow" ∨ r.wordAt? i = some "Deny"

theorem resultAt_ne_ok {i : Nat} : r.resultAt i ≠ .ok := by
  unfold resultAt Decision.judge
  repeat' split
  all_goals simp

theorem resultAt_isError_iff {i : Nat} : (r.resultAt i).isError = true ↔ ¬r.Decides i := by
  have hn := resultAt_ne_ok (r := r) (i := i)
  rw [Decides, ← resultAt_eq_allowed_iff, ← resultAt_eq_denied_iff]
  cases h : r.resultAt i <;> simp_all [Result.isError]

end Response

-- No access comes of the answer.
def Answer.FailsClosed : Answer → Prop
  | .result r => r.isError = true
  | .decision d => d.isError = true
  | .decisions ds => ∀ d ∈ ds, d.isError = true
  | .search r => r.result.isError = true
  | .policy c => c.result.isError = true
  | .lines ls => ls = []
  | .flag b => b = false

-- What an operation takes from a response it could read.
def Operation.Takes (r : Response) : Operation → Prop
  | .validate => False
  | .evaluate _ _ _ | .check _ _ _ => r.Decides 0
  | .batch _ queries => ∃ i, i < queries.length ∧ r.Decides i
  | .assets _ _ => ∃ d ∈ r.decisions, d.decision = some "Allow" ∧ d.assetId ≠ none
  | .search _ _ _ _ => True

namespace Client

variable {σ : Type} {client : Client σ} {call : Call} {op : Operation} {s : σ} {body : Json}

-- The operation gets past its checks, and its attempts come to the body. Over HTTP that is the body of a
-- response with the status 200, by `readResponse_ok_iff`.
def Receives (client : Client σ) (call : Call) (op : Operation) (s : σ) (body : Json) : Prop :=
  ∃ q, client.inquiry? call op = some q ∧ q.checks = .ok () ∧
    (client.execute call q.endpoint q.payload s).value = .ok body

section Outcomes

variable (call) (principal action : String) (v : Except AccessError Response)

theorem batchResults_isError_iff (qs : List Query) :
    (∀ x ∈ (batchDecisions call principal qs v).map (·.result), x.isError = true) ↔
      ¬∃ r, v = .ok r ∧ ∃ i, i < qs.length ∧ r.Decides i := by
  cases v
  case error e =>
    rw [batchDecisions_results_error]
    simp [e.result_isError]
  case ok r =>
    rw [List.forall_mem_iff_forall_getElem]
    simp only [List.length_map, batchDecisions_length, Except.ok.injEq, exists_eq_left', not_exists, not_and]
    apply forall₂_congr
    intro i hi
    have ⟨_, he⟩ := List.getElem?_eq_some_iff.mp <| batchDecisions_results_ok call principal r i hi
    rw [he, Response.resultAt_isError_iff]

theorem singleResult_isError_iff (q : Query) :
    (singleDecision call principal q v).result.isError = true ↔ ¬∃ r, v = .ok r ∧ r.Decides 0 := by
  have h := batchResults_isError_iff call principal v [q]
  rw [← singleDecision_result, List.forall_mem_singleton] at h
  simpa using h

theorem searchOutcome_isError_iff :
    (searchOutcome call principal action v).result.isError = true ↔ ¬∃ r, v = .ok r := by
  cases v
  case error e => simp [searchOutcome, SearchResult.failed, e.result_isError]
  case ok r => simp [searchOutcome, SearchResult.ofResponse, Result.isError]

end Outcomes

-- Nothing but a response that holds something for the operation keeps it from failing.
theorem answerOn_failsClosed_iff {q : Inquiry} (v : Except AccessError Response)
    (h : client.inquiry? call op = some q) :
    (client.answerOn call v op).FailsClosed ↔ ¬∃ r, v = .ok r ∧ op.Takes r := by
  cases op
  case validate => contradiction
  case evaluate principal asset action => exact singleResult_isError_iff ..
  case check principal asset action => exact singleResult_isError_iff ..
  case batch principal queries =>
    have hb := batchResults_isError_iff call principal v (queries.map Query.effective)
    rw [List.forall_mem_map, List.length_map] at hb
    exact hb
  case assets principal action =>
    cases v
    case error e => simp [answerOn, searchOutcome, SearchResult.failed, Answer.FailsClosed]
    case ok r =>
      simp only [answerOn, searchOutcome, SearchResult.ofResponse, Answer.FailsClosed,
        List.filterMap_eq_nil_iff, List.mem_filter, decide_eq_true_iff]
      simp [Operation.Takes, Decision.allowWord]
  case search principal action token pageSize =>
    rw [answerOn, Answer.FailsClosed, searchOutcome_isError_iff]
    simp [Operation.Takes]

-- A list of at most two values is taken for the object that has these values under the names of the
-- members, in the order of their declaration. Every other body without names fails closed.
theorem perform_failsClosed_iff (hr : client.Receives call op s body)
    (hn : ∀ ms, body ≠ .object ms) :
    (client.perform call op s).value.FailsClosed ↔
      ¬∃ items r, body = .array items ∧ items.length ≤ 2 ∧
        Response.ofJson (Response.named items) = .ok r ∧ op.Takes r := by
  have ⟨q, hq, hc, hb⟩ := hr
  rw [(perform_inquires hq).value, Run.map_value, answerOn_failsClosed_iff _ hq, inquire, hc,
    request_passed]
  simp only [hb, reading_eq_ok_iff, Except.ok.injEq, exists_eq_left', Response.ofJson_unnamed_eq_ok_iff hn]
  grind

-- A bare word is refused, whatever it says.
theorem perform_failsClosed_word :
    let client := Client.scripted { apiUrl := "http://localhost", apiToken := "token" }
    let call : Call := ⟨⟨"r"⟩, 0⟩
    (client.perform call (.evaluate "alice" "/bin/ls" "execute")
      [.success <| .string "Allow"]).value.FailsClosed := by
  intro client call
  have hr : client.Receives call (.evaluate "alice" "/bin/ls" "execute")
      [.success <| .string "Allow"] (.string "Allow") :=
    ⟨_, rfl, rfl, rfl⟩
  refine (perform_failsClosed_iff hr (by simp)).mpr ?_
  intro ⟨items, _, hb, _⟩
  contradiction

-- A list that holds the list of decisions without its name is an allowance.
theorem evaluate_listed_allowed :
    let client := Client.scripted { apiUrl := "http://localhost", apiToken := "token" }
    let call : Call := ⟨⟨"r"⟩, 0⟩
    let body : Json := .array [.array [.object [("decision", .string "Allow")]]]
    (∀ ms, body ≠ .object ms) ∧
      client.Receives call (.evaluate "alice" "/bin/ls" "execute") [.success body] body ∧
      (client.evaluate call "alice" "/bin/ls" "execute" [.success body]).value.result =
        .allowed := by
  intro client call body
  refine ⟨by simp [body], ⟨_, rfl, rfl, rfl⟩, by decide +kernel⟩

end Client
end AccessControl
