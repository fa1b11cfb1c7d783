import AccessControl.Proofs.Renaming

namespace AccessControl

open Log (Gate)

-- What a configuration says of its own. In all the rest, those that are compared are one.
structure Side where
  token : String
  gate : Gate

namespace Side

def recorded (v : Side) (e : Log.Event) : List Effect :=
  if v.gate.passes e.level then [.logged e] else []

end Side

namespace Config

def side (c : Config) : Side :=
  ⟨c.apiToken, ⟨c.enableDebugLogging, c.enableAccessLogging⟩⟩

def on (c : Config) (v : Side) : Config :=
  { c with
    apiToken := v.token
    enableDebugLogging := v.gate.debug
    enableAccessLogging := v.gate.access }

theorem on_recorded (c : Config) (v : Side) (e : Log.Event) : (c.on v).recorded e = v.recorded e := by
  unfold recorded Side.recorded
  cases e.level <;> rfl

end Config

-- A client on one side.
abbrev Side.client (v : Side) (c : Config) (transport : Transport σ) : Client σ :=
  ⟨c.on v, transport⟩

def Attempt.on (a : Attempt) (v : Side) : Attempt :=
  { a with config := a.config.on v }

def Call.event (call : Call) (level : Log.Level) (name message : String) : Log.Event :=
  ⟨name, level, call.time, some call.requestId, message⟩

-- A way to compare what two runs show, by pieces. The records and the pauses of a program compare; whether
-- its attempts do is up to the transports, which show what comes of them.
structure Comparison where
  ρ : Renaming
  left : Side
  right : Side
  token : left.token.isEmpty = right.token.isEmpty
  holds : List Effect → List Effect → Prop
  nil : holds [] []
  append : ∀ {es₁ es₂ fs₁ fs₂}, holds es₁ es₂ → holds fs₁ fs₂ → holds (es₁ ++ fs₁) (es₂ ++ fs₂)
  paused : ∀ delay, holds [.paused delay] [.paused delay]
  logged : ∀ (call : Call) level name message,
    holds (left.recorded ((ρ.call call).event level name message))
      (right.recorded (call.event level name message))

-- The first run comes to what the second comes to, by way of `f`, and shows what compares.
structure Run.Parallels (C : Comparison) (f : α → β) (r₁ : Run σ β) (r₂ : Run σ α) : Prop where
  value : ∀ s, (r₁ s).value = f (r₂ s).value
  effects : ∀ s, C.holds (r₁ s).effects (r₂ s).effects
  state : ∀ s, (r₁ s).state = (r₂ s).state

namespace Run.Parallels

variable {C : Comparison} {σ α β γ δ : Type} {f : α → β} {h : γ → δ}

theorem pure {x : α} {y : β} (hv : y = f x) :
    Run.Parallels C f (Pure.pure y : Run σ β) (Pure.pure x) where
  value _ := hv
  effects _ := C.nil
  state _ := rfl

theorem bind {r₁ : Run σ β} {r₂ : Run σ α} {k₁ : β → Run σ δ} {k₂ : α → Run σ γ}
    (hr : Run.Parallels C f r₁ r₂) (hk : ∀ x, Run.Parallels C h (k₁ (f x)) (k₂ x)) :
    Run.Parallels C h (r₁ >>= k₁) (r₂ >>= k₂) where
  value s := by rw [bind_value, bind_value, hr.value, hr.state, (hk _).value]
  effects s := by
    rw [bind_effects, bind_effects]
    refine C.append (hr.effects s) ?_
    rw [hr.value, hr.state]
    exact (hk _).effects _
  state s := by rw [bind_state, bind_state, hr.value, hr.state, (hk _).state]

theorem map {r₁ : Run σ β} {r₂ : Run σ α} {m₁ : β → δ} {m₂ : α → γ} (hr : Run.Parallels C f r₁ r₂)
    (hm : ∀ x, m₁ (f x) = h (m₂ x)) : Run.Parallels C h (r₁.map m₁) (r₂.map m₂) where
  value s := by rw [map_value, map_value, hr.value, hm]
  effects := hr.effects
  state := hr.state

theorem ite {p : Prop} [Decidable p] {r₁ r₁' : Run σ β} {r₂ r₂' : Run σ α}
    (ht : Run.Parallels C f r₁ r₂) (he : Run.Parallels C f r₁' r₂') :
    Run.Parallels C f (if p then r₁ else r₁') (if p then r₂ else r₂') := by
  split
  case isTrue => exact ht
  case isFalse => exact he

theorem emit {e₁ e₂ : Effect} (he : C.holds [e₁] [e₂]) :
    Run.Parallels C id (Run.emit e₁ : Run σ Unit) (Run.emit e₂) where
  value _ := rfl
  effects _ := he
  state _ := rfl

variable (c : Config) (level : Log.Level) (name : String) (call : Call) (message : String)

theorem log :
    Run.Parallels C id ((c.on C.left).log level name (C.ρ.call call) message : Run σ Unit)
      ((c.on C.right).log level name call message) where
  value _ := rfl
  effects s := by
    rw [Config.log_effects, Config.log_effects, Config.on_recorded, Config.on_recorded]
    exact C.logged call level name message
  state _ := by rw [Config.log_state, Config.log_state]

variable {c level name call message} {r₁ : Run σ β} {r₂ : Run σ α}

theorem log_bind (hr : Run.Parallels C f r₁ r₂) :
    Run.Parallels C f
      ((c.on C.left).log level name (C.ρ.call call) message >>= fun _ => r₁)
      ((c.on C.right).log level name call message >>= fun _ => r₂) :=
  bind (log ..) fun _ => hr

-- A record that depends on the configuration stands before the run.
theorem warned {p : Prop} [Decidable p] (hr : Run.Parallels C f r₁ r₂) :
    Run.Parallels C f
      (if p then (c.on C.left).log level name (C.ρ.call call) message >>= fun _ => r₁ else r₁)
      (if p then (c.on C.right).log level name call message >>= fun _ => r₂ else r₂) :=
  ite (log_bind hr) hr

end Run.Parallels

variable {C : Comparison} {σ α : Type}

namespace RetryPolicy

variable (p : RetryPolicy) (c : Config) (call : Call)
  {attempt₁ attempt₂ : Nat → Run σ (Except AccessError α)}

theorem pauseBefore_parallels (number : Nat) :
    Run.Parallels C id (p.pauseBefore (c.on C.left) (C.ρ.call call) number : Run σ Unit)
      (p.pauseBefore (c.on C.right) call number) :=
  .ite (.log_bind (.emit (C.paused p.delay))) (.pure rfl)

-- The step is one attempt; the run follows by induction on the attempts that are left.
theorem runFrom_parallels
    (ha : ∀ n, Run.Parallels C C.ρ.outcome (attempt₁ n) (attempt₂ n)) (left number : Nat) :
    Run.Parallels C C.ρ.outcome
      (p.runFrom (c.on C.left) (C.ρ.call call) attempt₁ left number)
      (p.runFrom (c.on C.right) call attempt₂ left number) := by
  induction left generalizing number
  case zero => exact .pure rfl
  case succ left hi =>
    refine .bind (p.pauseBefore_parallels c call number) fun _ => .bind (ha number) fun r => ?_
    cases r
    case ok v => exact .pure rfl
    case error e =>
      exact .ite (.log_bind <| .ite (.pure rfl) (hi (number + 1))) (.pure rfl)

theorem run_parallels (ha : ∀ n, Run.Parallels C C.ρ.outcome (attempt₁ n) (attempt₂ n)) :
    Run.Parallels C C.ρ.outcome (p.run (c.on C.left) (C.ρ.call call) attempt₁)
      (p.run (c.on C.right) call attempt₂) :=
  p.runFrom_parallels c call ha p.attempts 1

end RetryPolicy

variable {ρ : Renaming}

theorem checkIdentifier_ids (kind value : String) (id : RequestId) :
    checkIdentifier kind value (ρ.ids id) = ρ.outcome (checkIdentifier kind value id) := by
  unfold checkIdentifier
  split
  case isTrue => rfl
  case isFalse => split <;> rfl

namespace Client

variable (call : Call) (principal : String)

theorem singleDecision_outcome (q : Query) (v : Except AccessError Response) :
    singleDecision (ρ.call call) principal q (ρ.outcome v) =
      ρ.decision (singleDecision call principal q v) := by
  cases v
  case error e => rfl
  case ok response =>
    show singleDecision (ρ.call call) principal q (.ok response) = _
    cases h : response.decisions <;> simp only [singleDecision, h] <;> rfl

theorem alignDecisions_call (qs : List Query) (ds : List ServiceDecision) :
    alignDecisions (ρ.call call) principal qs ds = (alignDecisions call principal qs ds).map ρ.decision := by
  induction qs generalizing ds
  case nil => rfl
  case cons q qs hi =>
    cases ds
    case nil => exact congrArg _ (hi [])
    case cons d ds => exact congrArg _ (hi ds)

theorem batchDecisions_outcome (qs : List Query) (v : Except AccessError Response) :
    batchDecisions (ρ.call call) principal qs (ρ.outcome v) =
      (batchDecisions call principal qs v).map ρ.decision := by
  cases v
  case error e =>
    show qs.map _ = (qs.map fun q => Decision.ofError principal q.asset q.action call e).map ρ.decision
    rw [List.map_map]
    rfl
  case ok response => exact alignDecisions_call call principal qs response.decisions

end Client

theorem combinedResult_map_decision (ds : List Decision) :
    combinedResult (ds.map ρ.decision) = combinedResult ds := by
  unfold combinedResult
  rw [List.map_map]
  rfl

-- One attempt, as it is shown.
def Transport.attempting (transport : Transport σ) (a : Attempt) : Run σ (Except AccessError Json) := do
  Run.emit (.attempted a)
  transport.send a

namespace Comparison

-- The transports go along in every attempt that a call under a configuration makes.
def Joins (C : Comparison) (c : Config) (call : Call) (t₁ t₂ : Transport σ) : Prop :=
  ∀ (endpoint : Endpoint) (payload : Json),
    let a : Attempt := { endpoint, payload, call, config := c }
    Run.Parallels C C.ρ.outcome (t₁.attempting ((C.ρ.attempt a).on C.left)) (t₂.attempting (a.on C.right))

variable {c : Config} {t₁ t₂ : Transport σ}

theorem Joins.of_send {call : Call}
    (ha : ∀ a : Attempt, C.holds [.attempted ((C.ρ.attempt a).on C.left)] [.attempted (a.on C.right)])
    (hs : ∀ (endpoint : Endpoint) (payload : Json),
      let a : Attempt := { endpoint, payload, call, config := c }
      Run.Parallels C C.ρ.outcome (t₁.send ((C.ρ.attempt a).on C.left)) (t₂.send (a.on C.right))) :
    C.Joins c call t₁ t₂ :=
  fun endpoint payload => .bind (.emit (ha _)) fun _ => hs endpoint payload

theorem validate_on (C : Comparison) (c : Config) : (c.on C.left).validate = (c.on C.right).validate := by
  unfold Config.validate Config.on
  rw [C.token]

theorem isValid_on (C : Comparison) (c : Config) : (c.on C.left).isValid = (c.on C.right).isValid := by
  unfold Config.isValid Config.on
  rw [C.token]

variable (t₁ t₂)

theorem ensureConfigured_ids (id : RequestId) :
    (C.left.client c t₁).ensureConfigured (C.ρ.ids id) =
      C.ρ.outcome ((C.right.client c t₂).ensureConfigured id) := by
  unfold Client.ensureConfigured
  rw [C.validate_on]
  cases (c.on C.right).validate <;> rfl

theorem evaluationChecks_ids (call : Call) (principal : String) (assets : List String) :
    (C.left.client c t₁).evaluationChecks (C.ρ.call call) principal assets =
      C.ρ.outcome ((C.right.client c t₂).evaluationChecks call principal assets) := by
  simp only [Client.evaluationChecks, Renaming.outcome_bind, Renaming.outcome_forM, ← checkIdentifier_ids,
    ← ensureConfigured_ids t₁ t₂]
  rfl

end Comparison

variable {c : Config} {t₁ t₂ : Transport σ}

namespace Client

variable {call : Call} (principal : String)

theorem record_parallels (d : Decision) :
    Run.Parallels C id ((C.left.client c t₁).record (C.ρ.decision d))
      ((C.right.client c t₂).record d) := by
  have hd : (if (C.ρ.decision d).isError then (C.ρ.decision d).errorMessage else none) =
      if d.isError then d.errorMessage else none := rfl
  unfold record
  rw [hd]
  cases if d.isError then d.errorMessage else none
  case some message => exact .log ..
  case none => exact .log ..

theorem forM_record_parallels (ds : List Decision) :
    Run.Parallels C id ((ds.map C.ρ.decision).forM (C.left.client c t₁).record)
      (ds.forM (C.right.client c t₂).record) := by
  induction ds
  case nil => exact .pure rfl
  case cons d ds hi => exact .bind (record_parallels d) fun _ => hi

variable (ht : C.Joins c call t₁ t₂)

include ht

theorem execute_parallels (endpoint : Endpoint) (payload : Json) :
    Run.Parallels C C.ρ.outcome
      ((C.left.client c t₁).execute (C.ρ.call call) endpoint payload)
      ((C.right.client c t₂).execute call endpoint payload) :=
  RetryPolicy.run_parallels _ c call fun _ => ht endpoint payload

theorem request_parallels {checks₁ checks₂ : Except AccessError Unit}
    (hc : checks₁ = C.ρ.outcome checks₂) (endpoint : Endpoint) (payload : Json) :
    Run.Parallels C C.ρ.outcome
      ((C.left.client c t₁).request (C.ρ.call call) checks₁ endpoint payload)
      ((C.right.client c t₂).request call checks₂ endpoint payload) := by
  subst hc
  cases checks₂
  case error e => exact .pure rfl
  case ok =>
    refine .bind (execute_parallels ht endpoint payload) fun r => ?_
    cases r
    case error e => exact .pure rfl
    case ok body =>
      refine .pure ?_
      cases Response.ofJson body <;> rfl

theorem evaluate_parallels (asset action : String) :
    Run.Parallels C C.ρ.decision
      ((C.left.client c t₁).evaluate (C.ρ.call call) principal asset action)
      ((C.right.client c t₂).evaluate call principal asset action) := by
  unfold evaluate
  rw [pure_bind, pure_bind]
  refine .log_bind <| .bind (request_parallels ht (Comparison.evaluationChecks_ids ..) ..) fun v => ?_
  rw [singleDecision_outcome]
  exact .bind (record_parallels _) fun _ => .pure rfl

theorem evaluateBatch_parallels (queries : List Query) :
    Run.Parallels C (List.map C.ρ.decision)
      ((C.left.client c t₁).evaluateBatch (C.ρ.call call) principal queries)
      ((C.right.client c t₂).evaluateBatch call principal queries) := by
  unfold evaluateBatch
  rw [pure_bind, pure_bind]
  refine .log_bind <| .ite (.pure rfl) <|
    .bind (request_parallels ht (Comparison.evaluationChecks_ids ..) ..) fun v => ?_
  rw [batchDecisions_outcome]
  exact .bind (forM_record_parallels _) fun _ => .pure rfl

theorem searchWith_parallels (action : String) (page : Option Page) :
    Run.Parallels C C.ρ.search
      ((C.left.client c t₁).searchWith (C.ρ.call call) principal action page)
      ((C.right.client c t₂).searchWith call principal action page) := by
  unfold searchWith
  rw [pure_bind, pure_bind]
  refine .log_bind <| .bind (request_parallels ht ?checks ..) fun v => ?_
  case checks =>
    rw [Renaming.outcome_bind, ← checkIdentifier_ids, ← Comparison.ensureConfigured_ids t₁ t₂]
    rfl
  cases v
  case error e => exact .log_bind (.pure rfl)
  case ok response => exact .log_bind (.pure rfl)

theorem check_parallels (asset action : String) :
    Run.Parallels C id ((C.left.client c t₁).check (C.ρ.call call) principal asset action)
      ((C.right.client c t₂).check call principal asset action) :=
  (evaluate_parallels principal ht asset action).map fun _ => rfl

theorem assets_parallels (action : String) :
    Run.Parallels C id ((C.left.client c t₁).assets (C.ρ.call call) principal action)
      ((C.right.client c t₂).assets call principal action) :=
  (searchWith_parallels principal ht action none).map fun _ => rfl

theorem perform_parallels (op : Operation) :
    Run.Parallels C C.ρ.answer ((C.left.client c t₁).perform (C.ρ.call call) op)
      ((C.right.client c t₂).perform call op) := by
  cases op
  case validate =>
    refine .pure ?_
    rw [validate, C.isValid_on]
    rfl
  case evaluate principal asset action =>
    exact (evaluate_parallels principal ht asset action).map fun _ => rfl
  case check principal asset action => exact (check_parallels principal ht asset action).map fun _ => rfl
  case batch principal queries => exact (evaluateBatch_parallels principal ht queries).map fun _ => rfl
  case assets principal action => exact (assets_parallels principal ht action).map fun _ => rfl
  case search principal action token pageSize =>
    exact (searchWith_parallels principal ht action _).map fun _ => rfl

omit ht

-- The step is `perform_parallels`; the session follows by induction on its operations.
theorem performAll_parallels {calls : Nat → Call} (ht : ∀ n, C.Joins c (calls n) t₁ t₂) (n : Nat)
    (ops : List Operation) :
    Run.Parallels C (List.map C.ρ.answer)
      ((C.left.client c t₁).performAll (C.ρ.call <| calls ·) n ops)
      ((C.right.client c t₂).performAll (calls ·) n ops) := by
  induction ops generalizing n
  case nil => exact .pure rfl
  case cons op ops hi =>
    exact .bind (perform_parallels (ht n) op) fun _ => .bind (hi (n + 1)) fun _ => .pure rfl

end Client

namespace Host.Adapter

variable {call : Call} (ht : C.Joins c call t₁ t₂) (h₁ : (C.left.client c t₁).config.isValid = true)
  (h₂ : (C.right.client c t₂).config.isValid = true)

include ht

theorem decide_parallels (principal program : String) (args : List String) :
    Run.Parallels C (List.map C.ρ.decision)
      (decide ⟨C.left.client c t₁, h₁⟩ (C.ρ.call call) principal program args)
      (decide ⟨C.right.client c t₂, h₂⟩ call principal program args) := by
  unfold decide
  cases args.filter (!·.isEmpty)
  case nil => exact (Client.evaluate_parallels principal ht program sudoAction).map fun _ => rfl
  case cons arg rest => exact Client.evaluateBatch_parallels principal ht _

theorem checkPolicy_parallels (command : List String) (context : Context) :
    Run.Parallels C C.ρ.policy
      (checkPolicy ⟨C.left.client c t₁, h₁⟩ (C.ρ.call call) command context)
      (checkPolicy ⟨C.right.client c t₂, h₂⟩ call command context) := by
  cases command
  case nil => exact .pure rfl
  case cons program args =>
    refine .ite (.bind (decide_parallels ht h₁ h₂ context.principal program args) fun ds => ?_) (.pure rfl)
    rw [combinedResult_map_decision]
    exact .pure rfl

theorem listAllowed_parallels (principal : String) :
    Run.Parallels C id (listAllowed ⟨C.left.client c t₁, h₁⟩ (C.ρ.call call) principal)
      (listAllowed ⟨C.right.client c t₂, h₂⟩ call principal) :=
  Client.assets_parallels principal ht defaultAction

theorem list_parallels (command : Option String) (context : Context) :
    Run.Parallels C id (list ⟨C.left.client c t₁, h₁⟩ (C.ρ.call call) command context)
      (list ⟨C.right.client c t₂, h₂⟩ call command context) := by
  cases command <;> unfold list
  case none => exact (listAllowed_parallels ht h₁ h₂ context.principal).map fun _ => rfl
  case some command =>
    exact (Client.check_parallels context.principal ht command defaultAction).map fun _ => rfl

theorem perform_parallels (op : HostOperation) :
    Run.Parallels C C.ρ.answer
      (perform ⟨C.left.client c t₁, h₁⟩ (C.ρ.call call) op)
      (perform ⟨C.right.client c t₂, h₂⟩ call op) := by
  cases op
  case client op => exact Client.perform_parallels ht op
  case checkPolicy command context =>
    exact (checkPolicy_parallels ht h₁ h₂ command context).map fun _ => rfl
  case list command context => exact (list_parallels ht h₁ h₂ command context).map fun _ => rfl
  case listAllowed principal => exact (listAllowed_parallels ht h₁ h₂ principal).map fun _ => rfl
  case validateConfig =>
    have hv (v : Side) (t : Transport σ) (h : (v.client c t).config.isValid = true) :
        validateConfig ⟨v.client c t, h⟩ = true := by
      simp [validateConfig, Client.validate, h]
    exact .pure (by rw [hv _ _ h₁, hv _ _ h₂]; rfl)
  case version verbose => exact .pure rfl

omit ht

theorem performAll_parallels {calls : Nat → Call} (ht : ∀ n, C.Joins c (calls n) t₁ t₂) (n : Nat)
    (ops : List HostOperation) :
    Run.Parallels C (List.map C.ρ.answer)
      (performAll ⟨C.left.client c t₁, h₁⟩ (C.ρ.call <| calls ·) n ops)
      (performAll ⟨C.right.client c t₂, h₂⟩ (calls ·) n ops) := by
  induction ops generalizing n
  case nil => exact .pure rfl
  case cons op ops hi =>
    exact .bind (perform_parallels (ht n) h₁ h₂ op) fun _ => .bind (hi (n + 1)) fun _ => .pure rfl

end Host.Adapter

end AccessControl
