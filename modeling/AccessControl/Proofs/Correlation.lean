import AccessControl.Proofs.Course
import AccessControl.Proofs.Drawing
import AccessControl.Proofs.Identifier
import AccessControl.Proofs.Natural
import AccessControl.Proofs.Sent
import AccessControl.Supply
import Mathlib.Data.List.Nodup

namespace AccessControl

open Effect

-- The effect names the call with this identifier. A greeting and a pause name nothing.
def Effect.Names (id : RequestId) : Effect → Prop
  | .logged e => e.requestId = some id
  | .paused _ => True
  | .attempted a =>
    a.call.requestId = id ∧ ∀ url, (a.request url).headers.lookup RequestId.header = some id.text
  | .arrived (.request r) => r.headers.lookup RequestId.header = some id.text
  | .arrived .tlsGreeting => True

def Answer.Names (id : RequestId) : Answer → Prop
  | .decision d => d.call.requestId = id
  | .decisions ds => ∀ d ∈ ds, d.call.requestId = id
  | .search r => r.call.requestId = id
  | .policy c => ∀ d ∈ c.decisions, d.call.requestId = id
  | .result _ | .lines _ | .flag _ => True

-- What is expected of a transport: its errors, its records and its requests are those of the attempt
-- that it was handed, and it sends one request for it, the same every time.
structure Transport.Correlated (transport : Transport σ) : Prop where
  passive : transport.Passive
  errors : ∀ a s e, (transport.send a s).value = .error e → e.requestId = a.call.requestId
  shows : ∀ a s, ∀ e ∈ (transport.send a s).effects, e.Names a.call.requestId
  requests : ∀ a, ∃ r, ∀ s r', .arrived (.request r') ∈ (transport.send a s).effects → r' = r

-- What arrives at the service is what it was sent, or the greeting that comes before.
def Service.Delivers (service : Service σ) : Prop :=
  ∀ url request s, ∀ e ∈ (service.deliver url request s).effects,
    e = .arrived (.request request) ∨ e = .arrived .tlsGreeting

variable {σ : Type}

theorem Service.Delivers.quiet {service : Service σ} (h : service.Delivers) : service.Quiet := by
  intro url request s e he
  cases h url request s e he
  case inl hr => exact ⟨_, hr⟩
  case inr hg => exact ⟨_, hg⟩

theorem Tape.service_delivers : Tape.service.Delivers := by
  intro url request t e he
  have hs : (Tape.service.deliver url request t).effects = [.arrived (.request request)] := by
    cases hd : t.deliveries <;> simp [Tape.service, hd]
  rw [hs] at he
  exact .inl (List.mem_singleton.mp he)

theorem Network.IsScripted.delivers {network : Network σ} (h : network.IsScripted) :
    network.service.Delivers := by
  intro url request s e he
  unfold service at he
  cases hl : network.listener? url.host url.portNumber <;> simp only [hl] at he
  case none => contradiction
  case some listener =>
    have hn (a : Http.Arrival) (s : σ) : (listener a s).effects = [] := (h _ _ _ hl a a s).right
    cases hs : url.scheme <;> simp only [hs, Run.bind_effects, Run.emit_apply, hn, Run.pure_apply] at he
    case http => exact .inl (List.mem_singleton.mp he)
    case https => exact .inr (List.mem_singleton.mp he)

theorem Attempt.request_names (a : Attempt) (url : Http.Url) :
    (a.request url).headers.lookup RequestId.header = some a.call.requestId.text := rfl

-- A run compared with itself: all that it shows is as it should be.
def Comparison.showing (ρ : Renaming) (v : Side) (P : Effect → Prop) (paused : ∀ delay, P (.paused delay))
    (logged : ∀ (call : Call) level name message, P (.logged ((ρ.call call).event level name message))) :
    Comparison where
  ρ := ρ
  left := v
  right := v
  token := rfl
  holds es _ := ∀ e ∈ es, P e
  nil := nofun
  append h k := List.forall_mem_append.mpr ⟨h, k⟩
  paused delay := List.forall_mem_singleton.mpr (paused delay)
  logged call level name message := by
    unfold Side.recorded
    split
    case isTrue => exact List.forall_mem_singleton.mpr (logged call level name message)
    case isFalse => exact nofun

def Comparison.naming (call : Call) (v : Side) : Comparison :=
  .showing { ids := fun _ => call.requestId, times := id } v (·.Names call.requestId)
    (fun _ => trivial) (fun _ _ _ _ => rfl)

-- Renaming by one identifier leaves nothing that names another.
theorem Answer.names_of_renamed (call : Call) (v : Side) (answer : Answer) :
    ((Comparison.naming call v).ρ.answer answer).Names call.requestId := by
  cases answer
  case decision d => exact rfl
  case search r => exact rfl
  case decisions ds =>
    intro d hd
    have ⟨_, _, h⟩ := List.mem_map.mp hd
    exact h ▸ rfl
  case policy c =>
    intro d hd
    have ⟨_, _, h⟩ := List.mem_map.mp hd
    exact h ▸ rfl
  all_goals exact trivial

namespace Transport

theorem scripted_correlated : scripted.Correlated where
  passive _ := { attempts := fun _ => rfl }
  errors a s e h := by
    change s.next.1.outcome a.call a.config.timeout = .error e at h
    cases ho : s.next.1 <;> rw [ho] at h
    case success => contradiction
    case failure f =>
      cases h
      cases f <;> rfl
    all_goals
      cases h
      rfl
  shows _ _ _ h := by contradiction
  requests a := ⟨default, fun _ _ h => by contradiction⟩

variable {service : Service σ}

-- One attempt, handed out twice as it is.
theorem send_parallels_self {C : Comparison} {a : Attempt} (file : Volume.Reader)
    (hl : (C.ρ.attempt a).on C.left = a) (hr : a.on C.right = a)
    (ht : Http.isHeaderText C.left.token = Http.isHeaderText C.right.token) (hs : C.Serves a service service) :
    Run.Parallels C C.ρ.outcome ((https file service).send a) ((https file service).send a) := by
  have h := send_parallels (fun path _ => Eq.refl (file path)) ht hs
  rwa [hl, hr] at h

theorem https_names (file : Volume.Reader) (h : service.Delivers) (a : Attempt) :
    Run.Parallels (.naming a.call a.config.side) (Comparison.naming a.call a.config.side).ρ.outcome
      ((https file service).send a) ((https file service).send a) := by
  have hs : (Comparison.naming a.call a.config.side).Serves a service service := fun url _ => {
    value := fun _ => rfl
    effects := fun s e he => by
      cases h url _ s e he
      case inl hr => exact hr ▸ a.request_names url
      case inr hg => exact hg ▸ trivial
    state := fun _ => rfl }
  exact send_parallels_self file rfl rfl rfl hs

-- The attempt alone settles what is sent for it.
theorem https_requests (file : Volume.Reader) (h : service.Delivers) (a : Attempt) (s : σ)
    (r : Http.Request) (hr : .arrived (.request r) ∈ ((https file service).send a s).effects) :
    ∃ url, Http.Url.read? a.url = some url ∧ r = a.request url := by
  let C : Comparison := .showing .refl a.config.side
    (fun e => ∀ r, e = .arrived (.request r) → ∃ url, Http.Url.read? a.url = some url ∧ r = a.request url)
    (fun _ _ h => by contradiction) (fun _ _ _ _ _ h => by contradiction)
  have hs : C.Serves a service service := fun url hu => {
    value := fun _ => rfl
    effects := fun s e he r hr => by
      cases h url _ s e he
      case inl hq =>
        cases hq.symm.trans hr
        exact ⟨url, hu, rfl⟩
      case inr hg => cases hg.symm.trans hr
    state := fun _ => rfl }
  exact (send_parallels_self file rfl rfl rfl hs).effects s _ hr r rfl

theorem https_correlated (file : Volume.Reader) (h : service.Delivers) :
    (https file service).Correlated where
  passive := https_passive h.quiet
  errors a s e he := by
    have hv := (https_names file h a).value s
    rw [he] at hv
    exact congrArg AccessError.requestId (Except.error.inj hv)
  shows a s := (https_names file h a).effects s
  requests a := by
    have hr := https_requests file h a
    generalize Http.Url.read? a.url = found at hr
    cases found
    case none => exact ⟨default, fun s r h => nomatch hr s r h⟩
    case some url =>
      refine ⟨a.request url, fun s r h => ?_⟩
      have ⟨_, hu, he⟩ := hr s r h
      cases hu
      exact he

end Transport

-- The transport is handed nothing but what names the call, and shows and answers nothing else.
theorem Transport.Correlated.joins {transport : Transport σ} (h : transport.Correlated) (c : Config)
    (call : Call) : (Comparison.naming call c.side).Joins c call transport transport := by
  refine .of_send (fun _ => List.forall_mem_singleton.mpr ⟨rfl, fun _ => rfl⟩) fun endpoint payload => ?_
  intro a
  exact {
    value := fun s => by
      show (transport.send a s).value = Except.mapError _ (transport.send a s).value
      cases hv : (transport.send a s).value
      case ok body => rfl
      case error e =>
        have hi := h.errors a s e hv
        show Except.error e = .error { e with requestId := call.requestId }
        rw [← hi]
    effects := h.shows a
    state := fun _ => rfl }

-- What an operation that makes a call shows and comes to.
structure Outcome.Names (id : RequestId) (o : Outcome σ Answer) : Prop where
  answer : o.value.Names id
  effects : ∀ e ∈ o.effects, e.Names id
  -- One attempt and no other is made, and it sends one request and no other.
  attempts : ∀ a ∈ attempts o.effects, ∀ b ∈ attempts o.effects, a = b
  requests : ∀ r₁ r₂, .arrived (.request r₁) ∈ o.effects → .arrived (.request r₂) ∈ o.effects → r₁ = r₂

namespace Client

open RetryPolicy

variable {client : Client σ} {call : Call} {s : σ}

-- The step: an attempt shows itself and what its transport shows. The trace, by induction on the attempts.
theorem mem_deeds_trace {a : Attempt} {p : RetryPolicy} {config : Config} {n : Nat} {e : Effect}
    (h : e ∈ deeds (p.trace config call (client.attempting a) s n)) :
    e = .paused p.delay ∨ e = .attempted a ∨ ∃ s', e ∈ deeds (client.transport.send a s').effects := by
  induction n
  case zero => contradiction
  case succ n hi =>
    rw [trace, deeds_append, List.mem_append, deeds_round, nth, deeds_attempting, List.mem_append,
      List.mem_cons] at h
    rcases h with h | h | h | h
    · exact hi h
    · split at h
      case isTrue => exact .inl (List.mem_singleton.mp h)
      case isFalse => contradiction
    · exact .inr (.inl h)
    · exact .inr (.inr ⟨_, h⟩)

theorem mem_deeds_perform {op : Operation} {x : Http.Arrival}
    (h : .arrived x ∈ (client.perform call op s).effects) :
    ∃ q, client.inquiry? call op = some q ∧
      ∃ s', .arrived x ∈ (client.transport.send (client.attemptOf call q.endpoint q.payload) s').effects := by
  have hd : .arrived x ∈ deeds (client.perform call op s).effects := List.mem_filter.mpr ⟨h, rfl⟩
  cases hq : client.inquiry? call op
  case none =>
    rw [perform_quiet hq] at hd
    contradiction
  case some q =>
    refine ⟨q, rfl, ?_⟩
    rw [(perform_inquires hq).deeds, Run.map_effects, inquire] at hd
    cases hc : q.checks <;> rw [hc] at hd
    case error e =>
      rw [request_refused] at hd
      contradiction
    case ok =>
      obtain ⟨n, _, he⟩ := client.execute_eq_made call q.endpoint q.payload s
      rw [request_passed, he, made] at hd
      rcases mem_deeds_trace hd with h | h | ⟨s', h⟩
      · contradiction
      · contradiction
      · exact ⟨s', (List.mem_filter.mp h).left⟩

theorem perform_names (h : client.transport.Correlated) (call : Call) (op : Operation) (s : σ) :
    (client.perform call op s).Names call.requestId := by
  have hp := perform_parallels (h.joins client.config call) op
  exact {
    answer := by
      have hv := hp.value s
      exact hv ▸ Answer.names_of_renamed call client.config.side _
    effects := hp.effects s
    attempts := fun a ha b hb => by
      have ⟨q₁, hq₁, _, ha⟩ := mem_attempts_perform h.passive ha
      have ⟨q₂, hq₂, _, hb⟩ := mem_attempts_perform h.passive hb
      cases hq₁.symm.trans hq₂
      rw [ha, hb]
    requests := fun r₁ r₂ h₁ h₂ => by
      have ⟨q₁, hq₁, s₁, h₁⟩ := mem_deeds_perform h₁
      have ⟨q₂, hq₂, s₂, h₂⟩ := mem_deeds_perform h₂
      cases hq₁.symm.trans hq₂
      have ⟨r, hr⟩ := h.requests (client.attemptOf call q₁.endpoint q₁.payload)
      rw [hr s₁ r₁ h₁, hr s₂ r₂ h₂] }

end Client

-- The client operation that a host operation comes down to; without one it calls nobody.
def HostOperation.operation? : HostOperation → Option Operation
  | .client .validate => none
  | .client op => some op
  | .checkPolicy [] _ => none
  | .checkPolicy (program :: args) context =>
    if isIdentifier context.principal then
      match args.filter (!·.isEmpty) with
      | [] => some <| .evaluate context.principal program Host.sudoAction
      | args => some <| .batch context.principal (Host.Adapter.queries program args)
    else none
  | .list (some command) context => some <| .check context.principal command defaultAction
  | .list none context => some <| .assets context.principal defaultAction
  | .listAllowed principal => some <| .assets principal defaultAction
  | .validateConfig | .version _ => none

namespace Host.Adapter

variable (adapter : Adapter σ) {op : HostOperation} {asked : Operation}

-- A host operation adds nothing to what the client does, and names no call that the client does not.
theorem perform_some (h : op.operation? = some asked) (call : Call) (s : σ) :
    let o := adapter.client.perform call asked s
    let o' := adapter.perform call op s
    o'.effects = o.effects ∧ o'.state = o.state ∧ ∀ id, o.value.Names id → o'.value.Names id := by
  cases op
  case client op => cases op <;> cases h <;> exact ⟨rfl, rfl, fun _ => id⟩
  case checkPolicy command context =>
    cases command
    case nil => contradiction
    case cons program args =>
      by_cases hi : isIdentifier context.principal = true
      case neg => simp [HostOperation.operation?, hi] at h
      case pos =>
        simp only [HostOperation.operation?, hi, if_true] at h
        cases hf : args.filter (!·.isEmpty) <;> simp only [hf] at h <;> cases h
        case nil =>
          simp only [perform, checkPolicy, hi, if_true, decide, hf]
          exact ⟨List.append_nil _, rfl, fun _ hn => List.forall_mem_singleton.mpr hn⟩
        case cons =>
          simp only [perform, checkPolicy, hi, if_true, decide, hf]
          exact ⟨List.append_nil _, rfl, fun _ => id⟩
  case list command context =>
    cases command <;> cases h
    case none => exact ⟨rfl, rfl, fun _ _ => trivial⟩
    case some command => exact ⟨rfl, rfl, fun _ _ => trivial⟩
  case listAllowed principal =>
    cases h
    exact ⟨rfl, rfl, fun _ _ => trivial⟩
  case validateConfig => contradiction
  case version verbose => contradiction

end Host.Adapter

theorem HostOperation.operation?_of_makesCall {op : HostOperation} (h : op.MakesCall) :
    ∃ asked, op.operation? = some asked := by
  cases op
  case client op =>
    cases op
    case validate => exact absurd rfl h
    all_goals exact ⟨_, rfl⟩
  case checkPolicy command context =>
    cases command
    case nil => exact absurd rfl h.left
    case cons program args =>
      simp only [operation?, h.right, if_true]
      cases args.filter (!·.isEmpty) <;> exact ⟨_, rfl⟩
  case list command context => cases command <;> exact ⟨_, rfl⟩
  case listAllowed principal => exact ⟨_, rfl⟩
  case validateConfig => contradiction
  case version verbose => contradiction

namespace Client

open RetryPolicy

variable {client : Client σ} {P : σ → Prop}

-- What every single attempt keeps, attempts in a row keep, and so does an operation.
theorem stateAfter_keeps (h : ∀ a s, P s → P (client.transport.send a s).state) (a : Attempt) (n : Nat)
    {s : σ} (hs : P s) : P (stateAfter (client.attempting a) s n) := by
  induction n
  case zero => exact hs
  case succ n hi => exact h a _ hi

theorem perform_keeps (h : ∀ a s, P s → P (client.transport.send a s).state) (call : Call) (op : Operation)
    {s : σ} (hs : P s) : P (client.perform call op s).state := by
  cases hq : client.inquiry? call op
  case none =>
    rw [perform_uninquired hq (.error (.unexpected "" call.requestId))]
    exact hs
  case some q =>
    rw [(perform_inquires hq).state]
    show P (client.inquire call q s).state
    unfold inquire
    cases q.checks
    case error e => exact hs
    case ok =>
      obtain ⟨n, _, he⟩ := client.execute_eq_made call q.endpoint q.payload s
      rw [request_passed, he]
      exact stateAfter_keeps h _ n hs

end Client

theorem Transport.Correlated.stocked {transport : Transport σ} (h : transport.Correlated) :
    transport.stocked.Correlated where
  passive a := { attempts := fun s => (h.passive a).attempts s.state }
  errors a s := h.errors a s.state
  shows a s := h.shows a s.state
  requests a := have ⟨r, hr⟩ := h.requests a; ⟨r, fun s => hr s.state⟩

theorem Call.draw_bind (k : Call → Run (Stocked σ) α) (x : Stocked σ) :
    (draw >>= k) x = k x.supply.next { x with supply := x.supply.rest } := by
  simp [draw, Run.bind_apply]

-- An operation makes the next call of its supply, and leaves the others.
structure Outcome.MakesNext (x : Stocked σ) (o : Outcome (Stocked σ) Answer) : Prop where
  names : o.Names x.supply.next.requestId
  left : o.state.supply = x.supply.rest

-- An operation makes no call: nothing is to be seen of it, and all is as it was.
structure Outcome.MakesNone (x : Stocked σ) (o : Outcome (Stocked σ) Answer) : Prop where
  answer : ∀ id, o.value.Names id
  effects : o.effects = []
  left : o.state = x

namespace Client

variable {client : Client σ} {op : Operation} (x : Stocked σ)

theorem stocked_perform_left (call : Call) (op : Operation) :
    (client.stocked.perform call op x).state.supply = x.supply :=
  perform_keeps (P := fun (s : Stocked σ) => s.supply = x.supply) (fun _ _ hs => hs) call op rfl

theorem perform_makesNext (h : client.transport.Correlated) (ho : op.MakesCall) :
    (client.stocked.perform Call.draw op x).MakesNext x := by
  rw [client.stocked.perform_draws Call.draw ho, Call.draw_bind]
  exact { names := perform_names h.stocked .., left := stocked_perform_left .. }

theorem perform_makesNone (draw : Run (Stocked σ) Call) (ho : ¬op.MakesCall) :
    (client.stocked.perform draw op x).MakesNone x := by
  cases of_not_not ho
  exact { answer := fun _ => trivial, effects := rfl, left := rfl }

end Client

namespace Host.Adapter

variable {adapter : Adapter σ} {op : HostOperation} (x : Stocked σ)

theorem perform_makesNext (h : adapter.client.transport.Correlated) (ho : op.MakesCall) :
    (adapter.stocked.perform Call.draw op x).MakesNext x := by
  have ⟨asked, hq⟩ := HostOperation.operation?_of_makesCall ho
  rw [adapter.stocked.perform_draws Call.draw ho, Call.draw_bind]
  let rest : Stocked σ := { x with supply := x.supply.rest }
  have ⟨he, hs, hv⟩ := adapter.stocked.perform_some hq x.supply.next rest
  have hn : Outcome.Names x.supply.next.requestId _ :=
    adapter.client.stocked.perform_names h.stocked x.supply.next asked rest
  exact {
    names := {
      answer := hv _ hn.answer
      effects := he ▸ hn.effects
      attempts := he ▸ hn.attempts
      requests := he ▸ hn.requests }
    left := by
      rw [hs]
      exact adapter.client.stocked_perform_left .. }

theorem perform_makesNone (draw : Run (Stocked σ) Call) (ho : ¬op.MakesCall) :
    (adapter.stocked.perform draw op x).MakesNone x := by
  cases op
  case client op => exact adapter.client.perform_makesNone x draw ho
  case checkPolicy command context =>
    cases command
    case nil => exact { answer := fun _ => List.forall_mem_nil _, effects := rfl, left := rfl }
    case cons program args =>
      have hi : ¬isIdentifier context.principal = true := fun hi => ho ⟨List.cons_ne_nil program args, hi⟩
      simp only [perform, checkPolicy, hi]
      exact { answer := fun _ => List.forall_mem_nil _, effects := rfl, left := rfl }
  case list command context => exact absurd trivial ho
  case listAllowed principal => exact absurd trivial ho
  case validateConfig => exact { answer := fun _ => trivial, effects := rfl, left := rfl }
  case version verbose => exact { answer := fun _ => trivial, effects := rfl, left := rfl }

end Host.Adapter

variable {ω : Type}

-- A session of operations, one after the other, with the identifiers of the calls that they make.
inductive Session (makesCall : ω → Prop) (perform : ω → Run (Stocked σ) Answer) :
    List ω → Stocked σ → List RequestId → Outcome (Stocked σ) (List Answer) → Prop
  | done : Session makesCall perform [] x [] ⟨[], [], x⟩
  | call (hc : makesCall op) (hn : (perform op x).MakesNext x)
      (h : Session makesCall perform ops (perform op x).state ids o) :
    Session makesCall perform (op :: ops) x (x.supply.next.requestId :: ids)
      ⟨(perform op x).value :: o.value, (perform op x).effects ++ o.effects, o.state⟩
  | idle (hc : ¬makesCall op) (hn : (perform op x).MakesNone x)
      (h : Session makesCall perform ops x ids o) :
    Session makesCall perform (op :: ops) x ids ⟨(perform op x).value :: o.value, o.effects, o.state⟩

-- The first identifiers of a supply, in their order.
structure Supply.Hands (p : Supply) (ids : List RequestId) : Prop where
  successive : ids = (List.range ids.length).map fun n => .ofRandom (p.bits n)
  uuids : ∀ id ∈ ids, id.IsUuid
  -- They are as different as the numbers that are drawn for them.
  different : ids.Nodup ↔ ((List.range ids.length).map p.bits).Nodup

theorem Supply.Hands.of_successive {p : Supply} {ids : List RequestId}
    (h : ids = (List.range ids.length).map fun n => .ofRandom (p.bits n)) : p.Hands ids where
  successive := h
  uuids id hi := by
    rw [h] at hi
    have ⟨n, _, hn⟩ := List.mem_map.mp hi
    exact hn ▸ RequestId.ofRandom_isUuid _
  different := by
    have hm : ids = ((List.range ids.length).map p.bits).map .ofRandom := by
      rw [List.map_map]
      exact h
    exact (iff_of_eq (congrArg List.Nodup hm)).trans (List.nodup_map_iff RequestId.ofRandom_injective)

-- The step is what an operation does with its supply; the session follows by induction on its operations.
theorem Session.of_perform {makesCall : ω → Prop} {perform : ω → Run (Stocked σ) Answer}
    (hn : ∀ op, makesCall op → ∀ x, (perform op x).MakesNext x)
    (hi : ∀ op, ¬makesCall op → ∀ x, (perform op x).MakesNone x) (ops : List ω) (x : Stocked σ) :
    ∃ ids, Session makesCall perform ops x ids (ops.mapM perform x) ∧ x.supply.Hands ids := by
  suffices ∃ ids, Session makesCall perform ops x ids (ops.mapM perform x) ∧
      ids = (List.range ids.length).map fun n => .ofRandom (x.supply.bits n) from
    have ⟨ids, hs, hd⟩ := this
    ⟨ids, hs, .of_successive hd⟩
  induction ops generalizing x
  case nil => exact ⟨[], .done, rfl⟩
  case cons op ops ih =>
    rw [List.mapM_cons]
    by_cases hc : makesCall op
    case pos =>
      have hx := hn op hc x
      have ⟨ids, hs, hd⟩ := ih (perform op x).state
      refine ⟨x.supply.next.requestId :: ids, ?_, ?_⟩
      · have := Session.call hc hx hs
        simpa [Run.bind_apply] using this
      · rw [List.length_cons, List.range_succ_eq_map, List.map_cons, List.map_map]
        rw [hx.left] at hd
        exact congrArg _ hd
    case neg =>
      have hx := hi op hc x
      have ⟨ids, hs, hd⟩ := ih x
      refine ⟨ids, ?_, hd⟩
      have := Session.idle hc hx hs
      simpa [Run.bind_apply, hx.left, hx.effects] using this

theorem Client.performAll_eq_mapM (client : Client σ) (draw : Run σ Call) (n : Nat) (ops : List Operation) :
    client.performAll (fun _ => draw) n ops = ops.mapM (client.perform draw) := by
  induction ops generalizing n
  case nil => rfl
  case cons op ops hi => rw [performAll, List.mapM_cons, hi]

theorem Host.Adapter.performAll_eq_mapM (adapter : Host.Adapter σ) (draw : Run σ Call) (n : Nat)
    (ops : List HostOperation) : adapter.performAll (fun _ => draw) n ops = ops.mapM (adapter.perform draw) := by
  induction ops generalizing n
  case nil => rfl
  case cons op ops hi => rw [performAll, List.mapM_cons, hi]

variable {τ : Type}

-- Every operation that makes a call draws the next identifier when it starts, and shows and comes to
-- nothing that bears another.
theorem performAll_correlates (client : Client σ) (hc : client.transport.Correlated) (ops : List Operation)
    (x : Stocked σ) (adapter : Host.Adapter τ) (ha : adapter.client.transport.Correlated)
    (hostOps : List HostOperation) (y : Stocked τ) :
    (∃ ids, Session Operation.MakesCall (client.stocked.perform Call.draw) ops x ids
        (client.stocked.performAll (fun _ => Call.draw) 0 ops x) ∧ x.supply.Hands ids) ∧
      ∃ ids, Session HostOperation.MakesCall (adapter.stocked.perform Call.draw) hostOps y ids
        (adapter.stocked.performAll (fun _ => Call.draw) 0 hostOps y) ∧ y.supply.Hands ids := by
  rw [Client.performAll_eq_mapM, Host.Adapter.performAll_eq_mapM]
  constructor
  · refine Session.of_perform (fun op ho x => ?_) (fun op ho x => ?_) ops x
    · exact Client.perform_makesNext x hc ho
    · exact Client.perform_makesNone x _ ho
  · refine Session.of_perform (fun op ho y => ?_) (fun op ho y => ?_) hostOps y
    · exact Host.Adapter.perform_makesNext y ha ho
    · exact Host.Adapter.perform_makesNone y _ ho

-- Over HTTP: a check that fails and is tried again, one that makes no call, and a search after them.
theorem performAll_correlates_retried :
    let config : Config := { apiUrl := "http://127.0.0.1:18080", apiToken := "token", retryCount := 1 }
    let client : Client Tape := ⟨config, .https (fun _ => .error .notFound) Tape.service⟩
    let adapter : Host.Adapter Tape := ⟨client, by decide +kernel⟩
    let ops : List Operation := [.check "alice" "door" "open", .validate, .search "alice" "open" none 0]
    let hostOps : List HostOperation := [.checkPolicy [] (.forUser "alice"), .client (.assets "alice" "")]
    let x : Stocked Tape := ⟨⟨fun n => n, id⟩, { deliveries := [.failed, .timedOut, .refused] }⟩
    (client.transport.Correlated ∧ adapter.client.transport.Correlated) ∧
      (∃ ids, Session Operation.MakesCall (client.stocked.perform Call.draw) ops x ids
          (client.stocked.performAll (fun _ => Call.draw) 0 ops x) ∧ x.supply.Hands ids) ∧
        ∃ ids, Session HostOperation.MakesCall (adapter.stocked.perform Call.draw) hostOps x ids
          (adapter.stocked.performAll (fun _ => Call.draw) 0 hostOps x) ∧ x.supply.Hands ids := by
  intro config client adapter ops hostOps x
  have ht : (Transport.https (fun _ => .error .notFound) Tape.service).Correlated :=
    Transport.https_correlated _ Tape.service_delivers
  have hc : client.transport.Correlated := ht
  exact ⟨⟨hc, hc⟩, performAll_correlates client hc ops x adapter hc hostOps x⟩

example :
    let config : Config := { apiUrl := "http://127.0.0.1:18080", apiToken := "token", retryCount := 1 }
    let client : Client Tape := ⟨config, .https (fun _ => .error .notFound) Tape.service⟩
    let ops : List Operation := [.check "alice" "door" "open", .validate, .search "alice" "open" none 0]
    let x : Stocked Tape := ⟨⟨fun n => n, id⟩, { deliveries := [.failed, .timedOut, .refused] }⟩
    (attempts (client.stocked.performAll (fun _ => Call.draw) 0 ops x).effects).map (·.call.requestId.text) =
      ["00000000-0000-4000-8000-000000000000", "00000000-0000-4000-8000-000000000000",
        "00000001-0000-4000-8000-000000000000", "00000001-0000-4000-8000-000000000000"] := by
  decide +kernel

end AccessControl
