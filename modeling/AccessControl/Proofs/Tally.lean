import AccessControl.Proofs.Checks
import AccessControl.Proofs.Gate

namespace AccessControl

open Effect

-- What belongs to any call, as if it belonged to this one.
def Renaming.toward (call : Call) : Renaming where
  ids _ := call.requestId
  times _ := call.time

-- Runs compared by their pauses, and by what `sent` tells of their attempts.
def Comparison.tally (ρ : Renaming) (config : Config) (sent : Attempt → β) : Comparison where
  ρ := ρ
  left := config.side
  right := config.side
  token := rfl
  holds es₁ es₂ := (attempts es₁).map sent = (attempts es₂).map sent ∧ pauses es₁ = pauses es₂
  nil := ⟨rfl, rfl⟩
  append h k := by
    simp only [attempts_append, pauses_append, List.map_append]
    rw [h.left, h.right, k.left, k.right]
    exact ⟨rfl, rfl⟩
  paused _ := ⟨rfl, rfl⟩
  logged call level name message := by
    unfold Side.recorded Call.event
    cases config.side.gate.passes level <;> exact ⟨rfl, rfl⟩

variable {σ : Type} {ρ : Renaming} {sent : Attempt → β}

section

variable {service : Service σ} {a : Attempt}

-- To carry something else is to speak to a service to which that is delivered instead.
def Service.carrying (service : Service σ) (a : Attempt) (payload : Json) : Service σ where
  deliver url _ := service.deliver url <| Attempt.request { a with payload } url

theorem deliver_carrying (payload : Json) (url : Http.Url) :
    deliver service { a with payload } url = deliver (service.carrying a payload) a url := rfl

theorem Transport.https_carrying (file : Volume.Reader) (payload : Json) :
    (https file service).send { a with payload } = (https file (service.carrying a payload)).send a := by
  have hu : Attempt.url { a with payload } = a.url := rfl
  simp only [https, hu, deliver_carrying]

end

theorem Transport.IsScripted.tallies {transport : Transport σ} (h : transport.IsScripted) (a : Attempt)
    (payload : Json) :
    Run.Parallels (.tally ρ a.config sent) ρ.outcome (transport.send { ρ.attempt a with payload })
      (transport.send a) := by
  cases h
  case outcomes =>
    exact {
      value := fun s => ρ.outcome_scripted s.next.1 a.call a.config.timeout
      effects := fun _ => ⟨rfl, rfl⟩
      state := fun _ => rfl }
  case servers file network hn =>
    let C := Comparison.tally ρ a.config sent
    have hl (a₁ a₂ : Http.Arrival) {host port listener} (h : network.listener? host port = some listener) :
        Run.Parallels C id (listener a₁) (listener a₂) := {
      value := fun s => by rw [(hn _ _ _ h a₁ a₂ s).left, id]
      effects := fun s => by rw [(hn _ _ _ h a₁ a₂ s).right, (hn _ _ _ h a₂ a₁ s).right]; exact C.nil
      state := fun s => by rw [(hn _ _ _ h a₁ a₂ s).left] }
    have hd : C.Serves a (network.service.carrying (ρ.attempt a) payload) network.service := fun url _ =>
      Network.service_parallels ⟨rfl, rfl⟩ ⟨rfl, rfl⟩ fun _ _ _ h => ⟨hl _ _ h, hl _ _ h⟩
    have hr : (C.ρ.attempt a).on C.left = ρ.attempt a := rfl
    have ha : a.on C.right = a := rfl
    have hp := send_parallels (fun path _ => Eq.refl (file path)) rfl hd
    rw [hr, ha] at hp
    rwa [https_carrying]

-- The first outcome is the second one under a renaming, after as many attempts and the same pauses.
structure Outcome.Tallies (ρ : Renaming) (sent : Attempt → β) (o₁ o₂ : Outcome σ (Except AccessError α)) :
    Prop where
  value : o₁.value = ρ.outcome o₂.value
  attempts : (attempts o₁.effects).map sent = (Effect.attempts o₂.effects).map sent
  pauses : pauses o₁.effects = Effect.pauses o₂.effects
  state : o₁.state = o₂.state

namespace Client

variable {client : Client σ} {call call' : Call} {q r : Inquiry}

theorem evaluationChecks_toward (principal : String) (assets : List String) :
    client.evaluationChecks call' principal assets =
      (Renaming.toward call').outcome (client.evaluationChecks call principal assets) := by
  rw [evaluationChecks_eq, evaluationChecks_eq]
  cases identifiersFault? principal assets
  case some message => rfl
  case none => cases client.config.fault? <;> rfl

-- The step is one attempt; the request follows by way of the retry policy.
theorem inquire_tallies (h : client.transport.IsScripted)
    (hs : ∀ a, sent ((Renaming.toward call').attempt a) = sent a)
    (hc : r.checks = (Renaming.toward call').outcome q.checks) (he : r.endpoint = q.endpoint)
    (hp : sent (client.attemptOf call r.endpoint r.payload) = sent (client.attemptOf call q.endpoint q.payload))
    (s : σ) :
    (client.inquire call' r s).Tallies (.toward call') sent (client.inquire call q s) := by
  let C := Comparison.tally (.toward call') client.config sent
  have ha (_ : Nat) : Run.Parallels C C.ρ.outcome
      (client.attempting (client.attemptOf call' r.endpoint r.payload) 0)
      (client.attempting (client.attemptOf call q.endpoint q.payload) 0) := by
    have hr : sent (client.attemptOf call' r.endpoint r.payload) =
        sent (client.attemptOf call q.endpoint q.payload) :=
      (hs (client.attemptOf call r.endpoint r.payload)).trans hp
    refine .bind (.emit ⟨congrArg ([·]) hr, rfl⟩) fun _ => ?_
    rw [he]
    exact h.tallies (client.attemptOf call q.endpoint q.payload) r.payload
  have ht : Run.Parallels C C.ρ.outcome (client.inquire call' r) (client.inquire call q) := by
    unfold inquire
    rw [hc]
    cases q.checks
    case error e => exact .pure rfl
    case ok =>
      refine .bind (RetryPolicy.run_parallels (C := C) _ client.config call ha) fun o => ?_
      cases o
      case error e => exact .pure rfl
      case ok body =>
        refine .pure ?_
        cases Response.ofJson body <;> rfl
  exact { value := ht.value s, attempts := (ht.effects s).left, pauses := (ht.effects s).right, state := ht.state s }

end Client
end AccessControl
