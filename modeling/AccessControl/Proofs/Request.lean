import AccessControl.Client
import AccessControl.Proofs.Retry

namespace AccessControl

-- Attempts are the client's own: the transport takes them and hands out none.
def Transport.Passive (transport : Transport σ) : Prop :=
  ∀ a, (transport.send a).Passive

namespace Client

open Effect RetryPolicy

variable {σ : Type} (client : Client σ) (call : Call) (endpoint : Endpoint) (payload : Json) (s : σ)

-- What the transport is handed for a request, every time anew.
def attemptOf : Attempt :=
  { endpoint, payload, call, config := client.config }

def attempting (a : Attempt) (_ : Nat) : Run σ (Except AccessError Json) := do
  Run.emit (.attempted a)
  client.transport.send a

theorem deeds_attempting (a : Attempt) (n : Nat) :
    deeds (client.attempting a n s).effects = .attempted a :: deeds (client.transport.send a s).effects := by
  simp [attempting]

-- The answer in what the attempts came to.
def reading (call : Call) : Except AccessError Json → Except AccessError Response
  | .error e => .error e
  | .ok body => (Response.ofJson body).mapError fun e =>
      .unexpected ("malformed decision response: " ++ e.message) call.requestId

theorem reading_eq_ok_iff {r : Except AccessError Json} {response : Response} :
    reading call r = .ok response ↔ ∃ body, r = .ok body ∧ Response.ofJson body = .ok response := by
  cases r
  case error e => simp [reading]
  case ok body => simp [reading, mapError_eq_ok_iff]

-- The step: one more attempt shows the same request once more. The run, by induction on the attempts.
theorem attempts_round {client : Client σ} {call : Call} {a : Attempt} {s : σ}
    (ht : client.transport.Passive) (p : RetryPolicy) (config : Config) (n : Nat) :
    attempts (p.round config call (client.attempting a) s n) = [a] := by
  rw [← attempts_deeds, deeds_round, nth, deeds_attempting, attempts_append, attempts_attempted,
    attempts_deeds, (ht a).attempts]
  split <;> rfl

theorem attempts_trace {client : Client σ} {call : Call} {a : Attempt} {s : σ}
    (ht : client.transport.Passive) (p : RetryPolicy) (config : Config) (n : Nat) :
    attempts (p.trace config call (client.attempting a) s n) = List.replicate n a := by
  induction n
  case zero => rfl
  case succ n hi => rw [trace, attempts_append, hi, attempts_round ht, List.replicate_succ']

theorem execute_eq_made :
    ∃ n, IsLast (fun i => (nth (client.attempting (client.attemptOf call endpoint payload)) s i).value)
        (RetryPolicy.ofConfig client.config).attempts n ∧
      client.execute call endpoint payload s =
        (ofConfig client.config).made client.config call
          (client.attempting (client.attemptOf call endpoint payload)) s n :=
  (ofConfig client.config).run_eq_made client.config call _ s

theorem request_refused (e : AccessError) :
    client.request call (.error e) endpoint payload s = ⟨.error e, [], s⟩ := rfl

theorem request_passed :
    client.request call (.ok ()) endpoint payload s =
      let o := client.execute call endpoint payload s
      ⟨reading call o.value, o.effects, o.state⟩ := by
  cases h : (client.execute call endpoint payload s).value <;>
    simp [request, Run.bind_apply, h, reading]

-- Attempts are made of nothing but what the request says, once its checks are passed.
theorem request_head {checks : Except AccessError Unit} {a : Attempt}
    (h : (attempts (client.request call checks endpoint payload s).effects).head? = some a) :
    checks = .ok () ∧ a = client.attemptOf call endpoint payload := by
  cases checks
  case error e =>
    rw [request_refused] at h
    contradiction
  case ok =>
    have ⟨n, hl, he⟩ := client.execute_eq_made call endpoint payload s
    have ⟨m, hm⟩ : ∃ m, n = m + 1 := ⟨n - 1, by have := hl.pos; omega⟩
    have ⟨es, ht⟩ := (ofConfig client.config).trace_eq_append client.config call
      (client.attempting (client.attemptOf call endpoint payload)) s m
    have hd := deeds_round (ofConfig client.config) client.config call
      (client.attempting (client.attemptOf call endpoint payload)) s 1
    rw [request_passed, he, made, hm, ht, attempts_append, ← attempts_deeds (round ..), hd, nth,
      deeds_attempting] at h
    simp only [Nat.lt_irrefl, if_false, List.nil_append, attempts_attempted, List.cons_append,
      List.head?_cons, Option.some.injEq] at h
    exact ⟨rfl, h.symm⟩

theorem mem_attempts_request {client : Client σ} {call : Call} {endpoint : Endpoint} {payload : Json}
    {a : Attempt} {s : σ} {checks : Except AccessError Unit} (ht : client.transport.Passive)
    (h : a ∈ attempts (client.request call checks endpoint payload s).effects) :
    checks = .ok () ∧ a = client.attemptOf call endpoint payload := by
  cases checks
  case error e =>
    rw [request_refused] at h
    contradiction
  case ok =>
    have ⟨n, _, he⟩ := client.execute_eq_made call endpoint payload s
    rw [request_passed, he, made, attempts_trace ht] at h
    exact ⟨rfl, List.eq_of_mem_replicate h⟩

-- A first attempt that is final is all that a request does.
theorem request_first_final (s : σ)
    (h : ¬IsTransient (client.transport.send (client.attemptOf call endpoint payload) s).value) :
    let r := client.request call (.ok ()) endpoint payload s
    let o := client.transport.send (client.attemptOf call endpoint payload) s
    r.value = reading call o.value ∧
      deeds r.effects = .attempted (client.attemptOf call endpoint payload) :: deeds o.effects ∧
      r.state = o.state := by
  have he : client.execute call endpoint payload s =
      (ofConfig client.config).made client.config call
        (client.attempting (client.attemptOf call endpoint payload)) s 1 :=
    (ofConfig client.config).run_first_final client.config call
      (client.attempting (client.attemptOf call endpoint payload)) s h
  simp only [request_passed, he, made, trace, List.nil_append, deeds_round, nth, deeds_attempting]
  exact ⟨rfl, rfl, rfl⟩

section Operations

variable (principal asset action : String) (queries : List Query) (page : Option Page)

@[simp]
theorem record_state (d : Decision) : (client.record d s).state = s := by
  cases h : if d.isError then d.errorMessage else none <;> simp [record, h]

@[simp]
theorem deeds_record (d : Decision) : deeds (client.record d s).effects = [] := by
  cases h : if d.isError then d.errorMessage else none <;> simp [record, h]

theorem forM_record (ds : List Decision) (s : σ) :
    (forM ds client.record s).state = s ∧ deeds (forM ds client.record s).effects = [] := by
  induction ds
  case nil => exact ⟨rfl, rfl⟩
  case cons d ds hi => simp [List.forM_cons, hi]

-- What an operation would send, and the checks that stand before it.
structure Inquiry where
  checks : Except AccessError Unit
  endpoint : Endpoint
  payload : Json

def inquire (q : Inquiry) : Run σ (Except AccessError Response) :=
  client.request call q.checks q.endpoint q.payload

-- A single question is asked just as several are.
def evaluationInquiry : Inquiry where
  checks := client.evaluationChecks call principal (queries.map (·.asset))
  endpoint := .evaluations
  payload := evaluationPayload client.config principal (queries.map Query.effective)

def searchInquiry : Inquiry where
  checks := client.evaluationChecks call principal []
  endpoint := .search
  payload := searchPayload principal (effectiveAction action) page

-- The result of a search whose inquiry came to the given outcome.
def searchOutcome : Except AccessError Response → SearchResult
  | .ok response => .ofResponse principal (effectiveAction action) call response
  | .error e => .failed principal (effectiveAction action) call e

theorem evaluate_inquires :
    (client.evaluate call principal asset action).Agrees <|
      (client.inquire call <| client.evaluationInquiry call principal [⟨asset, action⟩]).map <|
        singleDecision call principal ⟨asset, effectiveAction action⟩ := by
  constructor <;> simp [evaluate, inquire, evaluationInquiry, Query.effective]

theorem evaluateBatch_inquires (h : queries ≠ []) :
    (client.evaluateBatch call principal queries).Agrees <|
      (client.inquire call <| client.evaluationInquiry call principal queries).map <|
        batchDecisions call principal (queries.map Query.effective) := by
  constructor <;>
    simp [evaluateBatch, inquire, evaluationInquiry, h, forM_record, Query.effective, Function.comp_def]

theorem searchChecks_eq :
    (do checkIdentifier "principal" principal call.requestId
        client.ensureConfigured call.requestId) = client.evaluationChecks call principal [] := by
  cases h : checkIdentifier "principal" principal call.requestId <;> simp [evaluationChecks, h]

theorem searchWith_inquires :
    (client.searchWith call principal action page).Agrees <|
      (client.inquire call <| client.searchInquiry call principal action page).map <|
        searchOutcome call principal action := by
  unfold searchWith inquire searchInquiry
  rw [pure_bind, searchChecks_eq]
  refine (Config.log_bind_agrees ..).trans ?_
  constructor <;> intro s <;>
    cases h : (client.request call (client.evaluationChecks call principal []) .search
      (searchPayload principal (effectiveAction action) page) s).value <;>
    simp [searchOutcome, h]

end Operations

end Client
end AccessControl
