import AccessControl.Config.Origin
import AccessControl.Error
import AccessControl.Http.Request
import AccessControl.Log.Event

namespace AccessControl

structure Attempt where
  endpoint : Endpoint
  payload : Json
  call : Call
  config : Config

inductive Effect
  | logged (event : Log.Event)
  -- Waited between two attempts, in milliseconds.
  | paused (delay : Nat)
  | attempted (attempt : Attempt)
  | arrived (arrival : Http.Arrival)

structure Outcome (σ α : Type) where
  value : α
  effects : List Effect
  state : σ

-- A run against something with states in `σ`. Two runs in a row append their effects, which are in the
-- order in which they can be observed.
def Run (σ α : Type) : Type :=
  σ → Outcome σ α

namespace Run

def pure (a : α) : Run σ α :=
  fun s => ⟨a, [], s⟩

def bind (r : Run σ α) (k : α → Run σ β) : Run σ β :=
  fun s =>
    let first := r s
    let second := k first.value first.state
    ⟨second.value, first.effects ++ second.effects, second.state⟩

instance : Monad (Run σ) where
  pure := Run.pure
  bind := Run.bind

def emit (e : Effect) : Run σ Unit :=
  fun s => ⟨(), [e], s⟩

def map (f : α → β) (r : Run σ α) : Run σ β :=
  fun s => let o := r s; ⟨f o.value, o.effects, o.state⟩

variable {σ α β : Type}

@[simp]
theorem pure_apply (a : α) (s : σ) : (Pure.pure a : Run σ α) s = ⟨a, [], s⟩ := rfl

@[simp]
theorem bind_value (r : Run σ α) (k : α → Run σ β) (s : σ) :
    ((r >>= k) s).value = (k (r s).value (r s).state).value := rfl

@[simp]
theorem bind_effects (r : Run σ α) (k : α → Run σ β) (s : σ) :
    ((r >>= k) s).effects = (r s).effects ++ (k (r s).value (r s).state).effects := rfl

@[simp]
theorem bind_state (r : Run σ α) (k : α → Run σ β) (s : σ) :
    ((r >>= k) s).state = (k (r s).value (r s).state).state := rfl

instance : LawfulMonad (Run σ) :=
  .mk' (Run σ)
    (fun _ => by funext s; simp [Functor.map, Run.bind, Run.pure])
    (fun _ _ => by funext s; simp [Bind.bind, Pure.pure, Run.bind, Run.pure])
    (fun _ _ _ => by funext s; simp [Bind.bind, Run.bind, List.append_assoc])

end Run

-- Operations start by drawing the call that they make. A call that is given stands for drawing just that.
instance : Coe Call (Run σ Call) where
  coe := Pure.pure

namespace Config

-- Records an event of a call, if the configuration asks for events of its level.
def log (c : Config) (level : Log.Level) (name : String) (call : Call) (message : String) :
    Run σ Unit :=
  if c.logs level then
    Run.emit (.logged ⟨name, level, call.time, some call.requestId, message⟩)
  else pure ()

end Config

structure Transport (σ : Type) where
  send : Attempt → Run σ (Except AccessError Json)

end AccessControl
