import AccessControl.Proofs.Coherence
import AccessControl.Proofs.Script

namespace AccessControl

-- The decision on a question, when the service has this at its place.
def Decision.atPlace (call : Call) (principal : String) (q : Query) : Option ServiceDecision → Decision
  | some d => .ofService principal q.asset (effectiveAction q.action) call d
  | none => .failed principal q.asset (effectiveAction q.action) call .error "no decision for query"

def AllFail (ds : List Decision) (result : Result) (message : String) : Prop :=
  ∀ d ∈ ds, d.result = result ∧ d.errorMessage = some message

namespace Client

open Effect

variable (call : Call) (principal : String) {queries : List Query}

theorem alignDecisions_eq_mapIdx (queries : List Query) (ds : List ServiceDecision) :
    alignDecisions call principal (queries.map Query.effective) ds =
      queries.mapIdx fun i q => .atPlace call principal q ds[i]? := by
  refine List.ext_getElem? fun i => ?_
  rw [alignDecisions_getElem?, List.getElem?_map, List.getElem?_mapIdx, Option.map_map]
  cases ds[i]? <;> rfl

theorem batchDecisions_allFail (qs : List Query) (e : AccessError) :
    AllFail (batchDecisions call principal qs (.error e)) e.result e.message := by
  intro d hd
  have ⟨q, _, hq⟩ := List.mem_map.mp hd
  exact hq ▸ ⟨rfl, rfl⟩

-- What the last outcome of a batch settles.
def SettledBy (call : Call) (principal : String) (queries : List Query) (ds : List Decision) :
    Except AccessError Json → Prop
  | .error e => AllFail ds e.result e.message
  | .ok body =>
    match Response.ofJson body with
    | .error e => AllFail ds .error ("malformed decision response: " ++ e.message)
    | .ok response => ds = queries.mapIdx fun i q => .atPlace call principal q response.decisions[i]?

theorem batchDecisions_settledBy (queries : List Query) (r : Except AccessError Json) :
    SettledBy call principal queries
      (batchDecisions call principal (queries.map Query.effective) (reading call r)) r := by
  cases r
  case error e => exact batchDecisions_allFail call principal _ e
  case ok body =>
    rw [SettledBy, reading]
    cases Response.ofJson body
    case error e => exact batchDecisions_allFail call principal _ _
    case ok response => exact alignDecisions_eq_mapIdx ..

section Refused

variable {σ : Type} {client : Client σ} {s : σ}

-- A batch that is refused by the checks before it sends nothing.
theorem evaluateBatch_refused {e : AccessError}
    (h : client.evaluationChecks call principal (queries.map (·.asset)) = .error e) :
    let o := client.evaluateBatch call principal queries s
    AllFail o.value e.result e.message ∧ deeds o.effects = [] := by
  by_cases hn : queries = []
  case pos =>
    subst hn
    exact ⟨nofun, by simp [evaluateBatch]⟩
  case neg =>
    have hb := client.evaluateBatch_inquires call principal queries hn
    simp only [hb.value, hb.deeds, Run.map_value, Run.map_effects, inquire, evaluationInquiry, h,
      request_refused]
    exact ⟨batchDecisions_allFail call principal _ e, rfl⟩

end Refused

variable (config : Config) (script : Script)

theorem evaluateBatch_answered_in_turn (hn : queries ≠ [])
    (h : (scripted config).evaluationChecks call principal (queries.map (·.asset)) = .ok ()) :
    ∃ n, IsLast (fun i => (script.due i).outcome call config.timeout) (RetryPolicy.ofConfig config).attempts n ∧
      let o := (scripted config).evaluateBatch call principal queries script
      (attempts o.effects).length = n ∧
        SettledBy call principal queries o.value ((script.due n).outcome call config.timeout) := by
  have ⟨n, hl, hv, ha, _⟩ := request_scripted config script call .evaluations
    (evaluationPayload config principal (queries.map Query.effective))
  have hb := (scripted config).evaluateBatch_inquires call principal queries hn
  refine ⟨n, hl, ?_⟩
  simp only [hb.value, hb.attempts, Run.map_value, Run.map_effects, inquire, evaluationInquiry, h]
  simp only [scripted] at hv ha ⊢
  rw [hv, ha]
  exact ⟨List.length_replicate, batchDecisions_settledBy ..⟩

theorem evaluateBatch_by_place (queries : List Query) :
    let o := (scripted config).evaluateBatch call principal queries script
    let fault := identifiersFault? principal (queries.map (·.asset))
    List.Forall₂ (fun q d => d.principal = principal ∧ d.asset = q.asset ∧ d.action = effectiveAction q.action)
        queries o.value ∧
      (queries = [] → o.value = [] ∧ deeds o.effects = []) ∧
      (∀ message, fault = some message →
        AllFail o.value .invalidRequest message ∧ deeds o.effects = []) ∧
      (∀ message, fault = none → config.fault? = some message →
        AllFail o.value .configError message ∧ deeds o.effects = []) ∧
      (queries ≠ [] → fault = none → config.fault? = none →
        ∃ n, IsLast (fun i => (script.due i).outcome call config.timeout) (RetryPolicy.ofConfig config).attempts n ∧
          (attempts o.effects).length = n ∧
          SettledBy call principal queries o.value ((script.due n).outcome call config.timeout)) := by
  intro o fault
  have hc := (scripted config).evaluationChecks_eq call principal (queries.map (·.asset))
  refine ⟨?echo, ?empty, ?identifier, ?config, ?answered⟩
  case echo =>
    have ha := (scripted config).evaluateBatch_answers principal call script queries
    rw [List.forall₂_map_left_iff] at ha
    exact ha.imp fun _ _ h => ⟨h.principal, h.asset, h.action⟩
  case empty =>
    intro hn
    subst hn
    exact ⟨by simp [o, evaluateBatch], by simp [o, evaluateBatch]⟩
  case identifier =>
    intro message hf
    rw [show identifiersFault? principal (queries.map (·.asset)) = some message from hf] at hc
    exact evaluateBatch_refused call principal hc
  case config =>
    intro message hf hg
    rw [show identifiersFault? principal (queries.map (·.asset)) = none from hf] at hc
    simp only [scripted, hg] at hc
    exact evaluateBatch_refused call principal hc
  case answered =>
    intro hn hf hg
    rw [show identifiersFault? principal (queries.map (·.asset)) = none from hf] at hc
    simp only [scripted, hg] at hc
    exact evaluateBatch_answered_in_turn call principal config script hn hc

-- Two answers to three questions, after a failure that passes: the last question is left without a decision.
theorem evaluateBatch_by_place_short :
    let config : Config := { apiUrl := "localhost", apiToken := "token" }
    let queries : List Query := [⟨"/bin/ls", ""⟩, ⟨"/bin/su", "sudo"⟩, ⟨"/bin/id", ""⟩]
    let decisions := [Json.object [("decision", .string "Deny")], .object [("decision", .string "Allow")]]
    let script : Script := [.failure .timedOut, .success <| .object [("decisions", .array decisions)]]
    let call : Call := ⟨⟨"r"⟩, 0⟩
    let o := (scripted config).evaluateBatch call "alice" queries script
    queries ≠ [] ∧ identifiersFault? "alice" (queries.map (·.asset)) = none ∧ config.fault? = none ∧
      (attempts o.effects).length = 2 ∧
      o.value.map (fun d => (d.asset, d.result, d.errorMessage)) =
        [("/bin/ls", .denied, none), ("/bin/su", .allowed, none),
          ("/bin/id", .error, some "no decision for query")] := by
  intro config queries decisions script call o
  have hn : queries ≠ [] := List.cons_ne_nil _ _
  have hf : identifiersFault? "alice" (queries.map (·.asset)) = none := by decide +kernel
  have hg : config.fault? = none := by decide +kernel
  have ⟨_, _, _, _, ha⟩ := evaluateBatch_by_place call "alice" config script queries
  have ⟨n, hl, hc, hs⟩ := ha hn hf hg
  have ht : ∀ i, 0 < i → i < 2 → IsTransient ((script.due i).outcome call config.timeout) := by
    intro i hp hi
    obtain rfl : i = 1 := by omega
    exact .inl rfl
  obtain rfl : n = 2 := hl.eq_of_final (by decide) (by decide +kernel) ht id
  have hv : o.value = _ := hs
  refine ⟨hn, hf, hg, hc, ?_⟩
  rw [hv]
  decide +kernel

end Client
end AccessControl
