import AccessControl.Transport.Attempt

namespace AccessControl

theorem mapError_eq_ok_iff {x : Except ε α} {f : ε → ε'} {a : α} :
    x.mapError f = .ok a ↔ x = .ok a := by
  cases x
  case error e => exact ⟨nofun, nofun⟩
  case ok => constructor <;> intro h <;> cases h <;> rfl

namespace Effect

def isRecord : Effect → Bool
  | .logged _ => true
  | _ => false

def attempt? : Effect → Option Attempt
  | .attempted a => some a
  | _ => none

def pause? : Effect → Option Nat
  | .paused delay => some delay
  | _ => none

-- What is left of effects without the records.
def deeds (es : List Effect) : List Effect :=
  es.filter (!·.isRecord)

def attempts (es : List Effect) : List Attempt :=
  es.filterMap attempt?

def pauses (es : List Effect) : List Nat :=
  es.filterMap pause?

variable {es es₁ es₂ : List Effect}

@[simp]
theorem deeds_nil : deeds [] = [] := rfl

@[simp]
theorem deeds_append : deeds (es₁ ++ es₂) = deeds es₁ ++ deeds es₂ :=
  List.filter_append ..

@[simp]
theorem deeds_paused (delay : Nat) : deeds (.paused delay :: es) = .paused delay :: deeds es := rfl

@[simp]
theorem deeds_attempted (a : Attempt) : deeds (.attempted a :: es) = .attempted a :: deeds es := rfl

@[simp]
theorem attempts_nil : attempts [] = [] := rfl

@[simp]
theorem attempts_append : attempts (es₁ ++ es₂) = attempts es₁ ++ attempts es₂ :=
  List.filterMap_append ..

@[simp]
theorem attempts_paused (delay : Nat) : attempts (.paused delay :: es) = attempts es := rfl

@[simp]
theorem attempts_attempted (a : Attempt) : attempts (.attempted a :: es) = a :: attempts es := rfl

@[simp]
theorem pauses_nil : pauses [] = [] := rfl

@[simp]
theorem pauses_append : pauses (es₁ ++ es₂) = pauses es₁ ++ pauses es₂ :=
  List.filterMap_append ..

@[simp]
theorem pauses_paused (delay : Nat) : pauses (.paused delay :: es) = delay :: pauses es := rfl

@[simp]
theorem pauses_attempted (a : Attempt) : pauses (.attempted a :: es) = pauses es := rfl

-- Records are neither attempts nor pauses, so nothing is lost to either view without them.
theorem attempts_deeds (es : List Effect) : attempts (deeds es) = attempts es := by
  have h (e : Effect) : (if !e.isRecord then e.attempt? else none) = e.attempt? := by
    cases e <;> rfl
  simp only [attempts, deeds, List.filterMap_filter, h]

theorem pauses_deeds (es : List Effect) : pauses (deeds es) = pauses es := by
  have h (e : Effect) : (if !e.isRecord then e.pause? else none) = e.pause? := by
    cases e <;> rfl
  simp only [pauses, deeds, List.filterMap_filter, h]

end Effect

namespace Run

variable {σ α β : Type} {s : σ}

@[simp]
theorem map_value (f : α → β) (r : Run σ α) : (r.map f s).value = f (r s).value := rfl

@[simp]
theorem map_effects (f : α → β) (r : Run σ α) : (r.map f s).effects = (r s).effects := rfl

@[simp]
theorem map_state (f : α → β) (r : Run σ α) : (r.map f s).state = (r s).state := rfl

theorem bind_apply (r : Run σ α) (k : α → Run σ β) :
    (r >>= k) s =
      ⟨(k (r s).value (r s).state).value, (r s).effects ++ (k (r s).value (r s).state).effects,
        (k (r s).value (r s).state).state⟩ := rfl

@[simp]
theorem functor_map_apply (f : α → β) (r : Run σ α) :
    (f <$> r) s = ⟨f (r s).value, (r s).effects, (r s).state⟩ := by
  rw [← bind_pure_comp, bind_apply]
  simp

@[simp]
theorem emit_apply (e : Effect) : Run.emit e s = ⟨(), [e], s⟩ := rfl

-- The runs differ in nothing but records.
structure Agrees (r₁ r₂ : Run σ α) : Prop where
  value : ∀ s, (r₁ s).value = (r₂ s).value
  deeds : ∀ s, Effect.deeds (r₁ s).effects = Effect.deeds (r₂ s).effects
  state : ∀ s, (r₁ s).state = (r₂ s).state

namespace Agrees

variable {r₁ r₂ r₃ : Run σ α}

theorem trans (h₁ : r₁.Agrees r₂) (h₂ : r₂.Agrees r₃) : r₁.Agrees r₃ where
  value s := (h₁.value s).trans (h₂.value s)
  deeds s := (h₁.deeds s).trans (h₂.deeds s)
  state s := (h₁.state s).trans (h₂.state s)

theorem map (f : α → β) (h : r₁.Agrees r₂) : (r₁.map f).Agrees (r₂.map f) where
  value s := congrArg f (h.value s)
  deeds := h.deeds
  state := h.state

theorem attempts (h : r₁.Agrees r₂) (s : σ) :
    Effect.attempts (r₁ s).effects = Effect.attempts (r₂ s).effects := by
  rw [← Effect.attempts_deeds, h.deeds, Effect.attempts_deeds]

theorem pauses (h : r₁.Agrees r₂) (s : σ) :
    Effect.pauses (r₁ s).effects = Effect.pauses (r₂ s).effects := by
  rw [← Effect.pauses_deeds, h.deeds, Effect.pauses_deeds]

end Agrees

end Run

namespace Config

-- What a configuration lets through of an event.
def recorded (c : Config) (e : Log.Event) : List Effect :=
  if c.logs e.level then [.logged e] else []

@[simp]
theorem pauses_recorded (c : Config) (e : Log.Event) : Effect.pauses (c.recorded e) = [] := by
  unfold recorded
  split <;> rfl

variable {σ α : Type} {s : σ} (c : Config) (level : Log.Level) (name : String) (call : Call)
  (message : String)

theorem log_effects :
    (c.log level name call message s).effects =
      c.recorded ⟨name, level, call.time, some call.requestId, message⟩ := by
  unfold log recorded
  split <;> rfl

@[simp]
theorem log_state : (c.log level name call message s).state = s := by
  unfold log
  split <;> rfl

@[simp]
theorem deeds_log : Effect.deeds (c.log level name call message s).effects = [] := by
  unfold log
  split <;> rfl

theorem log_bind_agrees (r : Run σ α) : (c.log level name call message >>= fun _ => r).Agrees r where
  value _ := by simp
  deeds _ := by simp
  state _ := by simp

end Config

-- The run hands out no attempts.
structure Run.Passive (r : Run σ α) : Prop where
  attempts : ∀ s, Effect.attempts (r s).effects = []

namespace Run.Passive

variable {σ α β : Type}

theorem pure (x : α) : (Pure.pure x : Run σ α).Passive where
  attempts _ := rfl

theorem bind {r : Run σ α} {k : α → Run σ β} (hr : r.Passive) (hk : ∀ x, (k x).Passive) :
    (r >>= k).Passive where
  attempts s := by
    rw [Run.bind_effects, Effect.attempts_append, hr.attempts, (hk _).attempts, List.append_nil]

theorem of_deeds {r : Run σ α} (h : ∀ s, Effect.deeds (r s).effects = []) : r.Passive where
  attempts s := by rw [← Effect.attempts_deeds, h, Effect.attempts_nil]

theorem log_bind {c : Config} {level : Log.Level} {name : String} {call : Call} {message : String}
    {r : Run σ α} (h : r.Passive) : (c.log level name call message >>= fun _ => r).Passive :=
  bind (of_deeds fun _ => c.deeds_log level name call message) fun _ => h

theorem ite {p : Prop} [Decidable p] {r₁ r₂ : Run σ α} (h₁ : r₁.Passive) (h₂ : r₂.Passive) :
    (if p then r₁ else r₂).Passive := by
  split
  case isTrue => exact h₁
  case isFalse => exact h₂

-- A record that depends on the configuration stands before the run.
theorem warned {p : Prop} [Decidable p] {c : Config} {level : Log.Level} {name : String} {call : Call}
    {message : String} {r : Run σ α} (h : r.Passive) :
    (if p then c.log level name call message >>= fun _ => r else r).Passive :=
  .ite (.log_bind h) h

end Run.Passive

end AccessControl
