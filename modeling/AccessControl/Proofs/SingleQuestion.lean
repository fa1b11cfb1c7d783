import AccessControl.Proofs.Settlement
import AccessControl.Proofs.Tally

namespace AccessControl

open Effect

-- The decision of a batch of one is the decision alone, as the other call makes it; where no decision came at
-- all, both are failures, and each says so in its own words.
structure Decision.Echoes (call : Call) (unanswered : Prop) (d alone : Decision) : Prop where
  answered : ¬unanswered → d = { alone with call }
  unanswered : unanswered →
    alone.result = .error ∧ alone.errorMessage = some "no decisions in response" ∧
      d = { alone with call, errorMessage := some "no decision for query" }

namespace Client

variable {σ : Type} {client : Client σ} (call call' : Call) (principal asset action : String)

theorem batchDecisions_single (q : Query) (r : Except AccessError Response) :
    ∃ d, batchDecisions call' principal [q] ((Renaming.toward call').outcome r) = [d] ∧
      d.Echoes call' (∃ response, r = .ok response ∧ response.decisions = []) (singleDecision call principal q r) := by
  cases r
  case error e =>
    refine ⟨_, rfl, { answered := fun _ => rfl, unanswered := fun h => ?_ }⟩
    obtain ⟨_, he, -⟩ := h
    contradiction
  case ok response =>
    have hb : batchDecisions call' principal [q] ((Renaming.toward call').outcome (.ok response)) =
        alignDecisions call' principal [q] response.decisions := rfl
    rw [hb]
    cases hd : response.decisions
    case nil =>
      refine ⟨_, rfl, { answered := fun h => absurd ⟨response, rfl, hd⟩ h, unanswered := fun _ => ?_ }⟩
      simp only [singleDecision, hd]
      exact ⟨rfl, rfl, rfl⟩
    case cons d ds =>
      refine ⟨_, rfl, { answered := fun _ => ?_, unanswered := fun h => ?_ }⟩
      · simp only [singleDecision, hd]
        rfl
      · obtain ⟨_, he, hn⟩ := h
        cases he
        rw [hd] at hn
        contradiction

-- The two tell an answer without any decision in different words, and nothing else.
theorem evaluateBatch_single (h : client.transport.IsScripted) (s : σ) :
    let alone := client.evaluate call principal asset action s
    let batch := client.evaluateBatch call' principal [⟨asset, action⟩] s
    let payload := evaluationPayload client.config principal [⟨asset, effectiveAction action⟩]
    let unanswered := ∃ response,
      client.Settles call principal [asset] .evaluations payload s (.ok response) ∧ response.decisions = []
    (∃ d, batch.value = [d] ∧ d.Echoes call' unanswered alone.value) ∧
      (attempts batch.effects).map (fun a => (a.endpoint, a.payload)) =
        (attempts alone.effects).map (fun a => (a.endpoint, a.payload)) ∧
      pauses batch.effects = pauses alone.effects ∧ batch.state = alone.state := by
  intro alone batch payload unanswered
  let q := client.evaluationInquiry call principal [⟨asset, action⟩]
  let q' := client.evaluationInquiry call' principal [⟨asset, action⟩]
  let o := client.inquire call q s
  let o' := client.inquire call' q' s
  have ha := client.evaluate_inquires call principal asset action
  have hb := client.evaluateBatch_inquires call' principal [⟨asset, action⟩] (List.cons_ne_nil _ _)
  have ht : o'.Tallies (.toward call') (fun a => (a.endpoint, a.payload)) o :=
    inquire_tallies (q := q) (r := q') h (fun _ => rfl) (evaluationChecks_toward principal [asset]) rfl rfl s
  have hv : alone.value = singleDecision call principal ⟨asset, effectiveAction action⟩ o.value := ha.value s
  have hw : batch.value = batchDecisions call' principal [⟨asset, effectiveAction action⟩] o'.value := hb.value s
  refine ⟨?decision, ?attempts, ?pauses, ?state⟩
  case decision =>
    have ⟨d, hd, he⟩ := batchDecisions_single call call' principal ⟨asset, effectiveAction action⟩ o.value
    have hu : unanswered = ∃ response, o.value = .ok response ∧ response.decisions = [] :=
      propext <| exists_congr fun _ => and_congr_left' settles_iff
    exact ⟨d, by rw [hw, ht.value, hd], by rw [hu, hv]; exact he⟩
  case attempts =>
    rw [hb.attempts s, ha.attempts s]
    exact ht.attempts
  case pauses => exact (hb.pauses s).trans <| ht.pauses.trans (ha.pauses s).symm
  case state => exact (hb.state s).trans <| ht.state.trans (ha.state s).symm

-- Nothing is decided, at the second attempt: both fail, each in its own words.
theorem evaluateBatch_single_unanswered :
    let client : Client Script := ⟨{ apiUrl := "localhost", apiToken := "token" }, .scripted⟩
    let script : Script := [.failure .timedOut, .success <| .object [("decisions", .array [])]]
    let call : Call := ⟨⟨"a"⟩, 1⟩
    let call' : Call := ⟨⟨"b"⟩, 2⟩
    let alone := client.evaluate call "alice" "door" "open" script
    let batch := client.evaluateBatch call' "alice" [⟨"door", "open"⟩] script
    client.transport.IsScripted ∧
      (∃ d, batch.value = [d] ∧ d.result = .error ∧ d.errorMessage = some "no decision for query") ∧
      alone.value.result = .error ∧ alone.value.errorMessage = some "no decisions in response" ∧
      (attempts batch.effects).map (fun a => (a.endpoint, a.payload)) =
        (attempts alone.effects).map (fun a => (a.endpoint, a.payload)) ∧
      pauses batch.effects = [1000] := by
  intro client script call call' alone batch
  have hs : client.transport.IsScripted := .outcomes
  have ⟨⟨d, hd, he⟩, ha, hp, _⟩ := evaluateBatch_single call call' "alice" "door" "open" hs script
  have ⟨hr, hm, hw⟩ := he.unanswered ⟨⟨[], none⟩, settles_iff.mpr rfl, rfl⟩
  exact ⟨hs, ⟨d, hd, hw ▸ hr, hw ▸ rfl⟩, hr, hm, ha, hp.trans <| by decide +kernel⟩

end Client
end AccessControl
