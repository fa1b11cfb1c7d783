import AccessControl.Proofs.Exchange
import AccessControl.Proofs.Operation
import AccessControl.Transport.Tape

namespace AccessControl

open Effect

-- The answer reports a failure; a list of assets reports it by being empty.
def Answer.Reports (result : Result) (message : String) : Answer → Prop
  | .result r => r = result
  | .decision d => d.result = result ∧ d.errorMessage = some message
  | .decisions ds => ds ≠ [] ∧ ∀ d ∈ ds, d.result = result ∧ d.errorMessage = some message
  | .search r => r.result = result ∧ r.errorMessage = some message ∧ r.assets = []
  | .lines ls => ls = []
  | .policy c => c.result = result
  | .flag b => b = false

-- Requests arrive at the service while they are delivered, and nothing else happens.
def Service.Quiet (service : Service σ) : Prop :=
  ∀ url request s, ∀ e ∈ (service.deliver url request s).effects, ∃ arrival, e = .arrived arrival

def rejectionMessage (status : Nat) : String :=
  if status = 401 then "invalid API token" else "insufficient permissions"

variable {σ : Type} {service : Service σ}

namespace Service.Quiet

theorem filterMap_eq_nil {β : Type} {f : Effect → Option β} (h : service.Quiet)
    (hf : ∀ arrival, f (.arrived arrival) = none) (url : Http.Url) (request : Http.Request) (s : σ) :
    (service.deliver url request s).effects.filterMap f = [] := by
  refine List.filterMap_eq_nil_iff.mpr ?_
  intro e he
  have ⟨arrival, ha⟩ := h url request s e he
  rw [ha, hf]

theorem attempts (h : service.Quiet) (url : Http.Url) (request : Http.Request) (s : σ) :
    Effect.attempts (service.deliver url request s).effects = [] :=
  h.filterMap_eq_nil (fun _ => rfl) url request s

theorem pauses (h : service.Quiet) (url : Http.Url) (request : Http.Request) (s : σ) :
    Effect.pauses (service.deliver url request s).effects = [] :=
  h.filterMap_eq_nil (fun _ => rfl) url request s

end Service.Quiet

theorem Tape.service_quiet : Tape.service.Quiet := by
  intro url request t e he
  have hs : (Tape.service.deliver url request t).effects = [.arrived (.request request)] := by
    cases hd : t.deliveries <;> simp [Tape.service, hd]
  rw [hs] at he
  exact ⟨_, List.mem_singleton.mp he⟩

theorem AccessError.ofStatus_rejection {status : Nat} (h : status = 401 ∨ status = 403)
    (body : Option String) (id : RequestId) :
    (ofStatus status body id).kind = .auth ∧ (ofStatus status body id).message = rejectionMessage status := by
  cases h
  case inl h => simp [ofStatus, rejectionMessage, h]
  case inr h => simp [ofStatus, rejectionMessage, h]

namespace Client

variable {client : Client σ} {call : Call} {op : Operation} {q : Inquiry} {a : Attempt} {s : σ}

theorem answerOn_reports (h : client.inquiry? call op = some q) (e : AccessError) :
    (client.answerOn call (.error e) op).Reports e.result e.message := by
  cases op
  case validate => contradiction
  case evaluate principal asset action => exact ⟨rfl, rfl⟩
  case check principal asset action => exact rfl
  case batch principal queries =>
    have hn : queries ≠ [] := by
      intro hn
      simp [inquiry?, hn] at h
    simp [answerOn, batchDecisions, Answer.Reports, Decision.ofError, Decision.failed, hn]
  case assets principal action => exact rfl
  case search principal action token pageSize => exact ⟨rfl, rfl, rfl⟩

-- An operation that makes an attempt at all makes it for its inquiry, whose checks are passed.
theorem perform_head (h : (attempts (client.perform call op s).effects).head? = some a) :
    ∃ q, client.inquiry? call op = some q ∧ q.checks = .ok () ∧
      a = client.attemptOf call q.endpoint q.payload := by
  cases hq : client.inquiry? call op
  case none =>
    rw [← attempts_deeds, perform_quiet hq] at h
    contradiction
  case some q =>
    rw [(perform_inquires hq).attempts] at h
    exact ⟨q, rfl, client.request_head call _ _ s h⟩

-- A first attempt that fails for good is all that happens, and its failure is what is reported.
theorem perform_first_failed {e : AccessError}
    (h : (attempts (client.perform call op s).effects).head? = some a)
    (hv : (client.transport.send a s).value = .error e) (hf : ¬(e.kind = .timeout ∨ e.kind = .network)) :
    let o := client.perform call op s
    let t := client.transport.send a s
    o.value.Reports e.result e.message ∧ deeds o.effects = .attempted a :: deeds t.effects ∧
      o.state = t.state := by
  have ⟨q, hq, hc, ha⟩ := perform_head h
  subst ha
  have hi := perform_inquires hq
  have ht : ¬IsTransient (client.transport.send (client.attemptOf call q.endpoint q.payload) s).value := by
    rw [hv]
    exact hf
  have ⟨hr, hd, hs⟩ := client.request_first_final call q.endpoint q.payload s ht
  rw [← hc] at hr hd hs
  refine ⟨?_, (hi.deeds s).trans hd, (hi.state s).trans hs⟩
  rw [hi.value, Run.map_value, inquire, hr, hv]
  exact answerOn_reports hq e

variable {config : Config} {file : Volume.Reader} {url : Http.Url} {r : Http.Response}

-- The body of the refusal has to be one that is taken: a body beyond the limit is a failure of the
-- network, and is tried again.
theorem perform_rejected (hq : service.Quiet)
    (ha : (attempts (perform ⟨config, .https file service⟩ call op s).effects).head? = some a)
    (hu : a.Reaches file url) (hr : (service.deliver url (a.request url) s).value = .response r)
    (hs : r.status = 401 ∨ r.status = 403) (hc : r.ending = .complete)
    (hd : ∀ n, r.declared = some n → n ≤ maxResponseBytes) (hb : r.body.length ≤ maxResponseBytes) :
    let o := perform ⟨config, .https file service⟩ call op s
    let d := service.deliver url (a.request url) s
    o.value.Reports .authError (rejectionMessage r.status) ∧ attempts o.effects = [a] ∧
      pauses o.effects = [] ∧ deeds o.effects = .attempted a :: deeds d.effects ∧ o.state = d.state := by
  have hl : r.read maxResponseBytes = .ok r.body := by
    have hn : r.declared.any (maxResponseBytes < ·) = false := by
      cases hr : r.declared <;> simp_all
    rw [Http.Response.read_complete hc, hn, decide_eq_false (Nat.not_lt.mpr hb)]
    rfl
  have hn : r.status ≠ 200 := by omega
  have ht := send_agrees service hu
  have ⟨hv, he, hd⟩ := deliver_response (a := a) hr
  have ⟨hk, hm⟩ := AccessError.ofStatus_rejection hs (some <| Utf8.decodeStringLossy r.body) a.call.requestId
  rw [readResponse_status hl hn, ← ht.value] at hv
  rw [← ht.deeds] at he
  rw [← ht.state] at hd
  have ⟨hp, hx, hz⟩ := perform_first_failed ha hv (by simp [hk])
  simp only [AccessError.result, hk, hm] at hp
  rw [he] at hx
  rw [hd] at hz
  refine ⟨hp, ?_, ?_, hx, hz⟩
  · rw [← attempts_deeds, hx, attempts_attempted, attempts_deeds, hq.attempts]
  · rw [← pauses_deeds, hx, pauses_attempted, pauses_deeds, hq.pauses]

-- Refused at once: two retries are left, and neither is used.
theorem perform_rejected_once :
    let config : Config := { apiUrl := "http://127.0.0.1:18080", apiToken := "token" }
    let client : Client Tape := ⟨config, .https (fun _ => .error .notFound) Tape.service⟩
    let call : Call := ⟨⟨"r"⟩, 0⟩
    let o := client.perform call (.check "alice" "/bin/ls" "execute")
      { deliveries := [.response ⟨401, some 2, [0x6E, 0x6F], .complete⟩] }
    o.value = .result .authError ∧ (attempts o.effects).length = 1 ∧ pauses o.effects = [] := by
  intro config client call o
  let url : Http.Url := ⟨.http, "", "", .loopback, some 18080, "/access/v2/evaluations", none, none⟩
  let payload := evaluationPayload config "alice" [⟨"/bin/ls", "execute"⟩]
  let a := client.attemptOf call .evaluations payload
  have hu : a.Reaches (fun _ => .error .notFound) url := Attempt.reaches_loopback _ payload call
  have ha : (attempts o.effects).head? = some a := rfl
  have ⟨hr, hn, hp, _⟩ := perform_rejected Tape.service_quiet ha hu rfl (.inl rfl) rfl (by decide) (by decide)
  exact ⟨congrArg Answer.result hr, by rw [hn]; rfl, hp⟩

-- A refusal whose body is too long is taken for a failure of the network, and asked for once more.
theorem evaluate_oversized_retried :
    let r : Http.Response := ⟨401, some 1048577, List.replicate 1048577 0x20, .complete⟩
    let config : Config := { apiUrl := "http://127.0.0.1:18080", apiToken := "token", retryCount := 1 }
    let client : Client Tape := ⟨config, .https (fun _ => .error .notFound) Tape.service⟩
    let call : Call := ⟨⟨"r"⟩, 0⟩
    let o := client.evaluate call "alice" "/bin/ls" "execute"
      { deliveries := [.response r, .response r] }
    o.value.result = .networkError ∧
      o.value.errorMessage = some "request failed: response exceeds size limit" ∧
      (attempts o.effects).length = 2 ∧ pauses o.effects = [1000] := by
  decide +kernel

end Client
end AccessControl
