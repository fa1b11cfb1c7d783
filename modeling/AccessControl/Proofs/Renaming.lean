import AccessControl.Proofs.Request
import AccessControl.Session

namespace AccessControl

-- What a configuration asks to be recorded, besides warnings and errors.
structure Log.Gate where
  debug : Bool
  access : Bool

namespace Log.Gate

def full : Gate := ⟨true, true⟩

def passes (g : Gate) : Level → Bool
  | .debug => g.debug
  | .info => g.access
  | .warn | .error => true

def keeps (g : Gate) : Effect → Bool
  | .logged e => g.passes e.level
  | _ => true

@[simp]
theorem full_passes (level : Level) : full.passes level = true := by
  cases level <;> rfl

end Log.Gate

open Log (Gate)

def Config.gated (c : Config) (g : Gate) : Config :=
  { c with enableDebugLogging := g.debug, enableAccessLogging := g.access }

@[simp]
theorem Config.gated_logs (c : Config) (g : Gate) (level : Log.Level) :
    (c.gated g).logs level = g.passes level := by
  cases level <;> rfl

def Attempt.gated (a : Attempt) (g : Gate) : Attempt :=
  { a with config := a.config.gated g }

def Client.gated (client : Client σ) (g : Gate) : Client σ :=
  { client with config := client.config.gated g }

def Host.Adapter.gated (adapter : Adapter σ) (g : Gate) : Adapter σ where
  client := adapter.client.gated g
  configured := adapter.configured

-- Other identifiers and times for calls, and for all that is said of them.
structure Renaming where
  ids : RequestId → RequestId
  times : Nat → Nat

namespace Renaming

def refl : Renaming where
  ids id := id
  times time := time

def forget : Renaming where
  ids _ := ⟨""⟩
  times _ := 0

variable (ρ : Renaming)

def call (c : Call) : Call :=
  ⟨ρ.ids c.requestId, ρ.times c.time⟩

def error (e : AccessError) : AccessError :=
  { e with requestId := ρ.ids e.requestId }

def outcome (v : Except AccessError α) : Except AccessError α :=
  v.mapError ρ.error

def decision (d : Decision) : Decision :=
  { d with call := ρ.call d.call }

def search (r : SearchResult) : SearchResult :=
  { r with call := ρ.call r.call }

def policy (c : Host.PolicyCheck) : Host.PolicyCheck :=
  { c with decisions := c.decisions.map ρ.decision }

def answer : Answer → Answer
  | .decision d => .decision (ρ.decision d)
  | .decisions ds => .decisions (ds.map ρ.decision)
  | .search r => .search (ρ.search r)
  | .policy c => .policy (ρ.policy c)
  | .result r => .result r
  | .lines ls => .lines ls
  | .flag b => .flag b

def event (e : Log.Event) : Log.Event :=
  { e with time := ρ.times e.time, requestId := e.requestId.map ρ.ids }

def attempt (a : Attempt) : Attempt :=
  { a with call := ρ.call a.call }

-- The header that carries the identifier tells the new one.
def request (r : Http.Request) : Http.Request :=
  { r with headers := r.headers.map fun (name, value) =>
      (name, if name = RequestId.header then (ρ.ids ⟨value⟩).text else value) }

def arrival : Http.Arrival → Http.Arrival
  | .request r => .request (ρ.request r)
  | .tlsGreeting => .tlsGreeting

def effect (g : Gate) : Effect → Effect
  | .logged e => .logged (ρ.event e)
  | .paused delay => .paused delay
  | .attempted a => .attempted ((ρ.attempt a).gated g)
  | .arrived a => .arrived (ρ.arrival a)

-- What is left to be seen of effects through a gate.
def view (g : Gate) (es : List Effect) : List Effect :=
  (es.filter g.keeps).map (ρ.effect g)

variable {ρ} {g : Gate}

@[simp]
theorem view_nil : ρ.view g [] = [] := rfl

@[simp]
theorem view_append (es₁ es₂ : List Effect) : ρ.view g (es₁ ++ es₂) = ρ.view g es₁ ++ ρ.view g es₂ := by
  simp [view]

theorem outcome_bind (x : Except AccessError α) (k : α → Except AccessError β) :
    ρ.outcome (x >>= k) = ρ.outcome x >>= fun v => ρ.outcome (k v) := by
  cases x <;> rfl

theorem outcome_forM (xs : List α) (f : α → Except AccessError Unit) :
    ρ.outcome (xs.forM f) = xs.forM fun x => ρ.outcome (f x) := by
  induction xs
  case nil => rfl
  case cons x xs hi => rw [List.forM, List.forM, outcome_bind, hi]

@[simp]
theorem event_level (e : Log.Event) : (ρ.event e).level = e.level := rfl

theorem map_decision_refl (ds : List Decision) : ds.map refl.decision = ds :=
  List.map_id ds

@[simp]
theorem answer_refl : refl.answer = id := by
  funext a
  cases a
  case decisions ds => exact congrArg Answer.decisions (map_decision_refl ds)
  case policy c =>
    exact congrArg (fun ds => Answer.policy { c with decisions := ds }) (map_decision_refl c.decisions)
  all_goals rfl

@[simp]
theorem event_refl : refl.event = id := by
  funext e
  simp [event, refl]

@[simp]
theorem arrival_refl : refl.arrival = id := by
  funext a
  cases a
  case request r => simp [arrival, request, refl]
  case tlsGreeting => rfl

theorem effect_refl_right {g' : Gate} (e : Effect) : ρ.effect g (refl.effect g' e) = ρ.effect g e := by
  cases e
  case logged e => simp [effect]
  case arrived a => simp [effect]
  all_goals rfl

theorem effect_refl_left (e : Effect) : refl.effect g (ρ.effect g e) = ρ.effect g e := by
  cases e
  case logged e => simp [effect]
  case arrived a => simp [effect]
  all_goals rfl

end Renaming

-- The first run comes to what the second comes to, renamed, and shows it through the gate.
structure Run.Mirrors (ρ : Renaming) (g : Gate) (f : α → β) (r₁ : Run σ β) (r₂ : Run σ α) : Prop where
  value : ∀ s, (r₁ s).value = f (r₂ s).value
  effects : ∀ s, (r₁ s).effects = ρ.view g (r₂ s).effects
  state : ∀ s, (r₁ s).state = (r₂ s).state

end AccessControl
