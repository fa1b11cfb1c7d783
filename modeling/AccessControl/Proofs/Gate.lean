import AccessControl.Proofs.Natural

namespace AccessControl

open Log (Gate)

variable {ρ : Renaming} {g : Gate} {σ : Type}

namespace Effect

def record? : Effect → Option Log.Event
  | .logged e => some e
  | _ => none

def records (es : List Effect) : List Log.Event :=
  es.filterMap record?

theorem records_view (es : List Effect) :
    records (ρ.view g es) = ((records es).filter (g.passes ·.level)).map ρ.event := by
  induction es
  case nil => rfl
  case cons e es hi =>
    cases e
    case logged e =>
      cases hp : g.passes e.level <;>
        simp_all [records, Renaming.view, record?, Gate.keeps, Renaming.effect]
    all_goals exact hi

theorem deeds_view (es : List Effect) : deeds (ρ.view g es) = (deeds es).map (ρ.effect g) := by
  induction es
  case nil => rfl
  case cons e es hi =>
    cases e
    case logged e =>
      cases hp : g.passes e.level <;>
        simp_all [deeds, isRecord, Renaming.view, Gate.keeps, Renaming.effect]
    all_goals exact congrArg _ hi

end Effect

-- A transport that follows a script, or the one that speaks HTTP to servers that follow one.
inductive Transport.IsScripted : {σ : Type} → Transport σ → Prop
  | outcomes : IsScripted scripted
  | servers {σ : Type} {network : Network σ} (file : Volume.Reader) (h : network.IsScripted) :
    IsScripted (https file network.service)

theorem Transport.IsScripted.isNatural {transport : Transport σ} (h : transport.IsScripted) :
    transport.IsNatural := by
  cases h
  case outcomes => exact scripted_isNatural
  case servers file network h => exact https_isNatural file h

def Log.Level.isAlarm : Level → Bool
  | .debug | .info => false
  | .warn | .error => true

theorem Log.Gate.isAlarm_and_passes (level : Level) : (level.isAlarm && g.passes level) = level.isAlarm := by
  cases level <;> rfl

open Effect

-- Two sessions in which the same is answered, done and warned of, up to the identifiers and times that
-- the renamings make the same, and up to what is asked to be recorded.
structure Outcome.Matches (ρ₁ ρ₂ : Renaming) (o₁ o₂ : Outcome σ (List Answer)) : Prop where
  answers : o₁.value.map ρ₁.answer = o₂.value.map ρ₂.answer
  deeds : (deeds o₁.effects).map (ρ₁.effect .full) = (deeds o₂.effects).map (ρ₂.effect .full)
  alarms : ((records o₁.effects).filter (·.level.isAlarm)).map ρ₁.event =
    ((records o₂.effects).filter (·.level.isAlarm)).map ρ₂.event
  state : o₁.state = o₂.state

namespace Outcome.Matches

variable {ρ₁ ρ₂ ρ₃ : Renaming} {o₁ o₂ o₃ : Outcome σ (List Answer)}

theorem symm (h : o₁.Matches ρ₁ ρ₂ o₂) : o₂.Matches ρ₂ ρ₁ o₁ where
  answers := h.answers.symm
  deeds := h.deeds.symm
  alarms := h.alarms.symm
  state := h.state.symm

theorem trans (h₁ : o₁.Matches ρ₁ ρ₂ o₂) (h₂ : o₂.Matches ρ₂ ρ₃ o₃) : o₁.Matches ρ₁ ρ₃ o₃ where
  answers := h₁.answers.trans h₂.answers
  deeds := h₁.deeds.trans h₂.deeds
  alarms := h₁.alarms.trans h₂.alarms
  state := h₁.state.trans h₂.state

end Outcome.Matches

-- A session is told here by what is asked to be recorded and by the calls it makes. What is asked
-- decides on the log alone: of all that could be recorded, it holds what is let through.
structure HeedsNoGate (session : Gate → (Nat → Call) → Outcome σ (List Answer)) : Prop where
  matches_of_calls : ∀ {g₁ g₂ : Gate} {ρ₁ ρ₂ : Renaming} {calls₁ calls₂ : Nat → Call},
    (∀ n, ρ₁.call (calls₁ n) = ρ₂.call (calls₂ n)) →
      (session g₁ calls₁).Matches ρ₁ ρ₂ (session g₂ calls₂)
  log : ∀ (g : Gate) (calls : Nat → Call),
    records (session g calls).effects =
      (records (session .full calls).effects).filter (g.passes ·.level)

-- A session mirrors the one in which everything is recorded, whatever its own calls are.
def IsMirrored (session : Gate → (Nat → Call) → Run σ (List Answer)) : Prop :=
  ∀ (ρ : Renaming) (g : Gate) (calls : Nat → Call),
    Run.Mirrors ρ g (List.map ρ.answer) (session g fun n => ρ.call (calls n)) (session .full calls)

namespace IsMirrored

variable {session : Gate → (Nat → Call) → Run σ (List Answer)} (h : IsMirrored session)

include h

theorem mirrors_full (g : Gate) (calls : Nat → Call) :
    Run.Mirrors .refl g id (session g calls) (session .full calls) := by
  have hr := h .refl g calls
  rwa [Renaming.answer_refl, List.map_id_fun] at hr

theorem matches_renamed (g : Gate) (ρ : Renaming) (calls : Nat → Call) (s : σ) :
    (session g calls s).Matches ρ .refl (session .full (fun n => ρ.call (calls n)) s) := by
  have hg := h.mirrors_full g calls
  have hf := h ρ .full calls
  exact {
    answers := by simp [hg.value, hf.value]
    deeds := by
      simp [hg.effects, hf.effects, deeds_view, Function.comp_def, Renaming.effect_refl_left,
        Renaming.effect_refl_right]
    alarms := by
      simp [hg.effects, hf.effects, records_view, List.filter_map, Function.comp_def,
        Gate.isAlarm_and_passes]
    state := (hg.state s).trans (hf.state s).symm }

-- Two sessions with calls that become the same match by way of the session of those calls.
theorem heedsNoGate (s : σ) : HeedsNoGate fun g calls => session g calls s where
  matches_of_calls {g₁ g₂ ρ₁ ρ₂ calls₁ calls₂} hc := by
    have h₁ := h.matches_renamed g₁ ρ₁ calls₁ s
    have h₂ := h.matches_renamed g₂ ρ₂ calls₂ s
    rw [funext hc] at h₁
    exact h₁.trans h₂.symm
  log g calls := by simp [(h.mirrors_full g calls).effects, records_view]

end IsMirrored

-- Whatever the calls, sessions are the same once identifiers and times are forgotten.
theorem HeedsNoGate.matches_forgetting {session : Gate → (Nat → Call) → Outcome σ (List Answer)}
    (h : HeedsNoGate session) (g₁ g₂ : Gate) (calls₁ calls₂ : Nat → Call) :
    (session g₁ calls₁).Matches .forget .forget (session g₂ calls₂) :=
  h.matches_of_calls fun _ => rfl

theorem performAll_heedsNoGate {τ : Type} (client : Client σ) (hc : client.transport.IsScripted)
    (ops : List Operation) (s : σ) (adapter : Host.Adapter τ) (ha : adapter.client.transport.IsScripted)
    (hostOps : List HostOperation) (t : τ) :
    HeedsNoGate (fun g calls => (client.gated g).performAll (calls ·) 0 ops s) ∧
      HeedsNoGate fun g calls => (adapter.gated g).performAll (calls ·) 0 hostOps t := by
  have hm : IsMirrored fun g calls => (client.gated g).performAll (calls ·) 0 ops :=
    fun _ _ calls => Client.performAll_mirrors hc.isNatural calls 0 ops
  have hh : IsMirrored fun g calls => (adapter.gated g).performAll (calls ·) 0 hostOps :=
    fun _ _ calls => Host.Adapter.performAll_mirrors ha.isNatural calls 0 hostOps
  exact ⟨hm.heedsNoGate s, hh.heedsNoGate t⟩

theorem performAll_heedsNoGate_local :
    let config : Config := { apiUrl := "http://localhost:80", apiToken := "token", retryCount := 1 }
    let network := Network.rehearsed (.name "localhost") 80
    let client : Client Script := ⟨config, .scripted⟩
    let adapter : Host.Adapter (List Http.Received) :=
      ⟨⟨config, .https (fun _ => .error .notFound) network.service⟩, by decide +kernel⟩
    (client.transport.IsScripted ∧ adapter.client.transport.IsScripted) ∧
      HeedsNoGate (fun g calls =>
        (client.gated g).performAll (calls ·) 0 [.evaluate "alice" "door" "open"] [.status 500 none]) ∧
      HeedsNoGate fun g calls =>
        (adapter.gated g).performAll (calls ·) 0 [.checkPolicy ["ls"] (.forUser "alice")] [{ bytes := [] }] := by
  intro config network client adapter
  have hn : network.IsScripted := Network.rehearsed_isScripted (.name "localhost") 80
  have hc : client.transport.IsScripted := .outcomes
  have ht : (Transport.https (fun _ => .error .notFound) network.service).IsScripted := .servers _ hn
  have ha : adapter.client.transport.IsScripted := ht
  have hs := performAll_heedsNoGate client hc [.evaluate "alice" "door" "open"] [.status 500 none]
    adapter ha [.checkPolicy ["ls"] (.forUser "alice")] [{ bytes := [] }]
  exact ⟨⟨hc, ha⟩, hs⟩

example :
    let config : Config := { apiUrl := "http://localhost", apiToken := "token", retryCount := 1 }
    let client : Client Script := ⟨config, .scripted⟩
    let call : Call := ⟨⟨"id"⟩, 0⟩
    let recorded (g : Gate) := records ((client.gated g).performAll (fun _ => call) 0
      [.evaluate "alice" "door" "open"] [.status 500 none]).effects
    (recorded ⟨false, false⟩).map (·.name) = ["access_decision_failed"] ∧
      (recorded .full).map (·.name) =
        ["evaluate_access", "attempt_failed", "retry_scheduled", "attempt_failed",
          "access_decision_failed"] := by
  decide +kernel

end AccessControl
