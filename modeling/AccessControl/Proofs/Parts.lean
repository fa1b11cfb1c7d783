import AccessControl.Proofs.Course
import AccessControl.Proofs.Gate

namespace AccessControl

namespace Effect

-- Effects by attempts: those before the first one, and each attempt with those after it up to the next.
def parts : List Effect → List Effect × List (Attempt × List Effect)
  | [] => ([], [])
  | .attempted a :: es => ([], (a, (parts es).1) :: (parts es).2)
  | .logged e :: es => (.logged e :: (parts es).1, (parts es).2)
  | .paused delay :: es => (.paused delay :: (parts es).1, (parts es).2)
  | .arrived arrival :: es => (.arrived arrival :: (parts es).1, (parts es).2)

def warnings (name : String) (es : List Effect) : List Log.Event :=
  (records es).filter fun e => e.level = .warn ∧ e.name = name

-- Nothing is attempted, nothing arrives, and nothing is warned of.
def IsCalm : Effect → Prop
  | .logged e => e.level ≠ .warn
  | .paused _ => True
  | .attempted _ | .arrived _ => False

-- Calm, or something that arrives.
def IsPlain (e : Effect) : Prop :=
  e.IsCalm ∨ ∃ arrival, e = .arrived arrival

variable {es es₁ es₂ : List Effect} {part : Attempt × List Effect}

theorem map_fst_parts (es : List Effect) : (parts es).2.map Prod.fst = attempts es := by
  induction es
  case nil => rfl
  case cons e es hi =>
    cases e
    case attempted a => simp [parts, hi]
    all_goals exact hi

theorem parts_of_no_attempts (h : attempts es = []) : parts es = (es, []) := by
  induction es
  case nil => rfl
  case cons e es hi =>
    cases e
    case attempted a => contradiction
    all_goals
      have hp := hi h
      simp [parts, hp]

-- What is put behind effects goes to the last of their parts, or in front if they have none.
theorem front_append (es₁ es₂ : List Effect) :
    (parts (es₁ ++ es₂)).1 = (parts es₁).1 ∨ (parts (es₁ ++ es₂)).1 = (parts es₁).1 ++ (parts es₂).1 := by
  induction es₁
  case nil => exact .inr rfl
  case cons e es hi =>
    cases e
    case attempted a => exact .inl rfl
    all_goals simpa [parts] using hi

theorem mem_parts_append (h : part ∈ (parts (es₁ ++ es₂)).2) :
    part ∈ (parts es₁).2 ∨ (∃ es, (part.1, es) ∈ (parts es₁).2 ∧ part.2 = es ++ (parts es₂).1) ∨
      part ∈ (parts es₂).2 := by
  induction es₁
  case nil => exact .inr <| .inr h
  case cons e es hi =>
    cases e
    case attempted a =>
      rcases List.mem_cons.mp h with rfl | h
      case inl =>
        rcases front_append es es₂ with hf | hf
        case inl => exact .inl <| hf ▸ List.mem_cons_self
        case inr => exact .inr <| .inl ⟨_, List.mem_cons_self, hf⟩
      case inr =>
        rcases hi h with hp | ⟨fs, hp, he⟩ | hp
        case inl => exact .inl <| List.mem_cons_of_mem _ hp
        case inr.inl => exact .inr <| .inl ⟨fs, List.mem_cons_of_mem _ hp, he⟩
        case inr.inr => exact .inr <| .inr hp
    all_goals exact hi h

-- Calm up to the first attempt, and every attempt with its effects as it should be.
structure Divided (P : Attempt → List Effect → Prop) (es : List Effect) : Prop where
  front : ∀ e ∈ (parts es).1, e.IsCalm
  each : ∀ part ∈ (parts es).2, P part.1 part.2

namespace Divided

variable {P : Attempt → List Effect → Prop}

theorem of_calm (h : ∀ e ∈ es, e.IsCalm) : Divided P es := by
  have hn : attempts es = [] := by
    refine List.filterMap_eq_nil_iff.mpr fun e he => ?_
    have hc := h e he
    cases e
    case attempted a => exact hc.elim
    all_goals rfl
  have hp := parts_of_no_attempts hn
  exact { front := hp ▸ h, each := hp ▸ nofun }

theorem append (hP : ∀ a es fs, P a es → (∀ e ∈ fs, e.IsCalm) → P a (es ++ fs)) (h₁ : Divided P es₁)
    (h₂ : Divided P es₂) : Divided P (es₁ ++ es₂) where
  front := by
    rcases front_append es₁ es₂ with hf | hf
    case inl => exact hf ▸ h₁.front
    case inr => exact hf ▸ List.forall_mem_append.mpr ⟨h₁.front, h₂.front⟩
  each part h := by
    rcases mem_parts_append h with hp | ⟨es, hp, he⟩ | hp
    case inl => exact h₁.each part hp
    case inr.inl => exact he ▸ hP _ _ _ (h₁.each _ hp) h₂.front
    case inr.inr => exact h₂.each part hp

theorem attempted {a : Attempt} (hn : attempts es = []) (h : P a es) : Divided P (.attempted a :: es) := by
  have hp := parts_of_no_attempts hn
  exact { front := nofun, each := by simpa [parts, hp] using h }

end Divided

variable {name : String}

theorem warnings_append (name : String) (es₁ es₂ : List Effect) :
    warnings name (es₁ ++ es₂) = warnings name es₁ ++ warnings name es₂ := by
  simp [warnings, records]

theorem warnings_of_plain (h : ∀ e ∈ es, e.IsPlain) : warnings name es = [] := by
  refine List.filter_eq_nil_iff.mpr fun event he => ?_
  have ⟨e, hm, hr⟩ := List.mem_filterMap.mp he
  cases e
  case logged =>
    cases hr
    rcases h _ hm with hc | ⟨arrival, ha⟩
    case inl => simp [show event.level ≠ .warn from hc]
    case inr => contradiction
  all_goals contradiction

theorem warnings_of_calm (h : ∀ e ∈ es, e.IsCalm) : warnings name es = [] :=
  warnings_of_plain fun e he => .inl <| h e he

-- What arrives does so on the side of the effects among which something does.
theorem split_behind {arrival : Http.Arrival} {before after : List Effect}
    (hn : .arrived arrival ∉ es₁) (h : es₁ ++ es₂ = before ++ .arrived arrival :: after) :
    ∃ between, before = es₁ ++ between ∧ es₂ = between ++ .arrived arrival :: after := by
  rcases List.append_eq_append_iff.mp h with ⟨between, hb, he⟩ | ⟨between, he, hb⟩
  case inl => exact ⟨between, hb, he⟩
  case inr =>
    cases between
    case nil => exact ⟨[], by simpa using he.symm, hb.symm⟩
    case cons e es =>
      cases hb
      exact absurd (he ▸ by simp) hn

theorem split_before {arrival : Http.Arrival} {before after : List Effect}
    (hn : .arrived arrival ∉ es₂) (h : es₁ ++ es₂ = before ++ .arrived arrival :: after) :
    ∃ between, es₁ = before ++ .arrived arrival :: between ∧ after = between ++ es₂ := by
  rcases List.append_eq_append_iff.mp h with ⟨between, hb, he⟩ | ⟨between, he, hb⟩
  case inl => exact absurd (he ▸ by simp) hn
  case inr =>
    cases between
    case nil =>
      cases hb
      exact absurd List.mem_cons_self hn
    case cons e es =>
      cases hb
      exact ⟨es, he, rfl⟩

end Effect

-- The run shows nothing but what is plain.
structure Run.Plain (r : Run σ α) : Prop where
  effects : ∀ s, ∀ e ∈ (r s).effects, e.IsPlain

namespace Run.Plain

variable {σ α β : Type}

theorem pure (x : α) : (Pure.pure x : Run σ α).Plain where
  effects _ := nofun

theorem bind {r : Run σ α} {k : α → Run σ β} (hr : r.Plain) (hk : ∀ x, (k x).Plain) : (r >>= k).Plain where
  effects s := List.forall_mem_append.mpr ⟨hr.effects s, (hk _).effects _⟩

theorem ite {p : Prop} [Decidable p] {r₁ r₂ : Run σ α} (h₁ : r₁.Plain) (h₂ : r₂.Plain) :
    (if p then r₁ else r₂).Plain := by
  split
  case isTrue => exact h₁
  case isFalse => exact h₂

theorem log_bind {c : Config} {level : Log.Level} {name : String} {call : Call} {message : String}
    {r : Run σ α} (hl : level ≠ .warn) (h : r.Plain) :
    (c.log level name call message >>= fun _ => r).Plain := by
  refine bind { effects := fun s e he => ?_ } fun _ => h
  rw [Config.log_effects, Config.recorded] at he
  split at he
  case isTrue => exact .inl <| List.mem_singleton.mp he ▸ hl
  case isFalse => contradiction

end Run.Plain

theorem Config.recorded_calm (config : Config) {event : Log.Event} (h : event.level ≠ .warn) :
    ∀ e ∈ config.recorded event, e.IsCalm := by
  unfold recorded
  split
  case isTrue => exact List.forall_mem_singleton.mpr h
  case isFalse => exact nofun

theorem Config.recordedAll_calm (config : Config) {events : List Log.Event}
    (h : ∀ event ∈ events, event.level ≠ .warn) : ∀ e ∈ config.recordedAll events, e.IsCalm := by
  intro e he
  have ⟨event, hm, hr⟩ := List.mem_flatMap.mp he
  exact config.recorded_calm (h event hm) e hr

theorem Decision.event_level (d : Decision) : d.event.level ≠ .warn := by
  unfold event
  cases if d.isError then d.errorMessage else none <;> simp [Call.event]

namespace RetryPolicy

variable {σ α : Type} (p : RetryPolicy) (config : Config) (call : Call) (s : σ) (n : Nat)

theorem pauseBefore_calm : ∀ e ∈ (p.pauseBefore config call n s).effects, e.IsCalm := by
  unfold pauseBefore
  split
  case isTrue =>
    rw [Run.bind_effects, Config.log_apply]
    exact List.forall_mem_append.mpr ⟨config.recorded_calm (by simp [Call.event]), by simp [Effect.IsCalm]⟩
  case isFalse => exact nofun

theorem failureRecord_calm (r : Except AccessError α) :
    ∀ e ∈ (p.failureRecord config call n r s).effects, e.IsCalm := by
  cases r
  case ok => exact nofun
  case error e =>
    unfold failureRecord
    dsimp only
    split
    case isTrue =>
      rw [Config.log_apply]
      exact config.recorded_calm (by simp [Call.event])
    case isFalse => exact nofun

end RetryPolicy

namespace Client

theorem opening_calm (call : Call) (op : Operation) : ∀ event ∈ opening call op, event.level ≠ .warn := by
  cases op <;> simp [opening, Call.event]

theorem closing_calm (call : Call) (r : Except AccessError Response) (op : Operation) :
    ∀ event ∈ closing call r op, event.level ≠ .warn := by
  have hs (principal action : String) : (searchEvent call principal action r).level ≠ .warn := by
    cases r <;> simp [searchEvent, Call.event]
  cases op <;> simp [closing, Decision.event_level, hs]

end Client
end AccessControl
