import AccessControl.Proofs.ParallelHttps
import AccessControl.Transport.Scripted

namespace AccessControl

open Log (Gate)

-- The runs are compared by what is left to be seen of the second one through the gate of the first.
def Comparison.mirror (ρ : Renaming) (g : Gate) (token : String) : Comparison where
  ρ := ρ
  left := ⟨token, g⟩
  right := ⟨token, .full⟩
  token := rfl
  holds es₁ es₂ := es₁ = ρ.view g es₂
  nil := rfl
  append h k := by rw [h, k, Renaming.view_append]
  paused _ := rfl
  logged call level name message := by
    by_cases hp : g.passes level = true
    case pos => simp [Side.recorded, Call.event, Renaming.view, Gate.keeps, hp]; rfl
    case neg => simp [Side.recorded, Call.event, Renaming.view, Gate.keeps, hp]

variable {ρ : Renaming} {g : Gate} {σ α β : Type}

section

variable {token : String} {f : α → β} {r₁ : Run σ β} {r₂ : Run σ α}

theorem Run.Parallels.mirrors (h : Run.Parallels (.mirror ρ g token) f r₁ r₂) :
    Run.Mirrors ρ g f r₁ r₂ where
  value := h.value
  effects := h.effects
  state := h.state

theorem Run.Mirrors.parallels (h : Run.Mirrors ρ g f r₁ r₂) :
    Run.Parallels (.mirror ρ g token) f r₁ r₂ where
  value := h.value
  effects := h.effects
  state := h.state

end

-- The transport heeds neither identifiers nor times, nor what is asked to be recorded.
def Transport.IsNatural (transport : Transport σ) : Prop :=
  ∀ (ρ : Renaming) (g : Gate) (a : Attempt),
    Run.Mirrors ρ g ρ.outcome (transport.send ((ρ.attempt a).gated g)) (transport.send (a.gated .full))

theorem Transport.IsNatural.joins {transport : Transport σ} (h : transport.IsNatural) (c : Config)
    (call : Call) : (Comparison.mirror ρ g c.apiToken).Joins c call transport transport :=
  .of_send (fun _ => rfl) fun endpoint payload => (h ρ g { endpoint, payload, call, config := c }).parallels

theorem Renaming.outcome_scripted (o : Scripted) (call : Call) (timeout : Nat) :
    o.outcome (ρ.call call) timeout = ρ.outcome (o.outcome call timeout) := by
  cases o
  case failure f => exact congrArg Except.error (ρ.error_ofTransport f timeout call.requestId).symm
  all_goals rfl

theorem Transport.scripted_isNatural : scripted.IsNatural := by
  intro ρ g a
  exact {
    value := fun s => ρ.outcome_scripted s.next.1 a.call a.config.timeout
    effects := fun _ => rfl
    state := fun _ => rfl }

-- Whatever arrives, the listeners answer what is next, and show nothing else.
def Network.IsScripted (network : Network σ) : Prop :=
  ∀ host port listener, network.listener? host port = some listener →
    ∀ a₁ a₂ s, listener a₁ s = listener a₂ s ∧ (listener a₁ s).effects = []

theorem Network.rehearsed_isScripted (host : Http.Host) (port : Nat) :
    (rehearsed host port).IsScripted := by
  intro h p listener hl a₁ a₂ replies
  simp only [rehearsed] at hl
  split at hl
  case isFalse => contradiction
  case isTrue =>
    cases hl
    match replies with
    | [] | [_] | _ :: _ :: _ => exact ⟨rfl, rfl⟩

-- What a network has to do for its service to go along: to answer alike where requests differ.
theorem Network.service_parallels {network : Network σ} {C : Comparison} {url : Http.Url}
    {request₁ request₂ : Http.Request}
    (ha : C.holds [.arrived (.request request₁)] [.arrived (.request request₂)])
    (hg : C.holds [.arrived .tlsGreeting] [.arrived .tlsGreeting])
    (hl : ∀ host port listener, network.listener? host port = some listener →
      Run.Parallels C id (listener (.request request₁)) (listener (.request request₂)) ∧
        Run.Parallels C id (listener .tlsGreeting) (listener .tlsGreeting)) :
    Run.Parallels C id (network.service.deliver url request₁) (network.service.deliver url request₂) := by
  unfold service
  cases hn : network.listener? url.host url.portNumber <;> simp only [hn]
  case none => exact .pure rfl
  case some listener =>
    have ⟨hr, ht⟩ := hl _ _ listener hn
    cases url.scheme
    case http => exact .bind (.emit ha) fun _ => .bind hr fun _ => .pure rfl
    case https => exact .bind (.emit hg) fun _ => .bind ht fun _ => .pure rfl

theorem Network.IsScripted.serves {network : Network σ} (h : network.IsScripted) (token : String)
    (a : Attempt) : (Comparison.mirror ρ g token).Serves a network.service network.service := by
  have hl (a₁ a₂ : Http.Arrival) {host port listener}
      (hn : network.listener? host port = some listener) :
      Run.Parallels (.mirror ρ g token) id (listener a₁) (listener a₂) := by
    refine Run.Mirrors.parallels {
      value := fun s => by rw [(h _ _ _ hn a₁ a₂ s).left, id]
      effects := fun s => ?_
      state := fun s => by rw [(h _ _ _ hn a₁ a₂ s).left] }
    rw [(h _ _ _ hn a₁ a₂ s).right, (h _ _ _ hn a₂ a₁ s).right, Renaming.view_nil]
  intro url hu
  exact service_parallels rfl rfl fun _ _ _ hn => ⟨hl _ _ hn, hl _ _ hn⟩

theorem Transport.https_isNatural (file : Volume.Reader) {network : Network σ} (h : network.IsScripted) :
    (https file network.service).IsNatural := by
  intro ρ g a
  let C := Comparison.mirror ρ g a.config.apiToken
  have hs : C.Serves a network.service network.service := h.serves a.config.apiToken a
  have hl : (ρ.attempt a).gated g = (C.ρ.attempt a).on C.left := rfl
  have hr : a.gated .full = a.on C.right := rfl
  rw [hl, hr]
  exact (send_parallels (fun path _ => Eq.refl (file path)) rfl hs).mirrors

theorem Client.performAll_mirrors {client : Client σ} (ht : client.transport.IsNatural)
    (calls : Nat → Call) (n : Nat) (ops : List Operation) :
    Run.Mirrors ρ g (List.map ρ.answer)
      ((client.gated g).performAll (ρ.call <| calls ·) n ops)
      ((client.gated .full).performAll (calls ·) n ops) :=
  (performAll_parallels (fun n => ht.joins client.config (calls n)) n ops).mirrors

theorem Host.Adapter.performAll_mirrors {adapter : Adapter σ} (ht : adapter.client.transport.IsNatural)
    (calls : Nat → Call) (n : Nat) (ops : List HostOperation) :
    Run.Mirrors ρ g (List.map ρ.answer)
      ((adapter.gated g).performAll (ρ.call <| calls ·) n ops)
      ((adapter.gated .full).performAll (calls ·) n ops) :=
  (performAll_parallels adapter.configured adapter.configured
    (fun n => ht.joins adapter.client.config (calls n)) n ops).mirrors

end AccessControl
