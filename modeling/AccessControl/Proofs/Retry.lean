import AccessControl.Proofs.Effects
import AccessControl.Retry

namespace AccessControl

-- Another attempt may come to something else.
def IsTransient : Except AccessError α → Prop
  | .ok _ => False
  | .error e => e.kind = .timeout ∨ e.kind = .network

instance : DecidablePred (@IsTransient α)
  | .ok _ => .isFalse id
  | .error e => inferInstanceAs <| Decidable (e.kind = .timeout ∨ e.kind = .network)

-- `n` is the first of `budget` attempts whose outcome is final, or the last of them if there is none.
structure IsLast (outcome : Nat → Except AccessError α) (budget n : Nat) : Prop where
  pos : 0 < n
  le : n ≤ budget
  before : ∀ i, 0 < i → i < n → IsTransient (outcome i)
  final : n < budget → ¬IsTransient (outcome n)

theorem AccessError.isRetryable_iff {e : AccessError} :
    e.isRetryable = true ↔ e.kind = .timeout ∨ e.kind = .network := by
  unfold isRetryable
  cases e.kind <;> simp [Kind.isRetryable]

namespace IsLast

variable {outcome : Nat → Except AccessError α} {budget n₁ n₂ : Nat}

theorem not_lt (h₁ : IsLast outcome budget n₁) (h₂ : IsLast outcome budget n₂) : ¬n₁ < n₂ := by
  intro h
  have hf := h₁.final <| Nat.lt_of_lt_of_le h h₂.le
  exact hf <| h₂.before n₁ h₁.pos h

theorem unique (h₁ : IsLast outcome budget n₁) (h₂ : IsLast outcome budget n₂) : n₁ = n₂ := by
  have := h₁.not_lt h₂
  have := h₂.not_lt h₁
  omega

-- An outcome that is not transient ends the attempts where it comes.
theorem eq_of_final {n k : Nat} (h : IsLast outcome budget n) (hp : 0 < k) (hb : k ≤ budget)
    (ht : ∀ i, 0 < i → i < k → IsTransient (outcome i)) (hf : ¬IsTransient (outcome k)) : n = k :=
  h.unique { pos := hp, le := hb, before := ht, final := fun _ => hf }

theorem congr {outcome' : Nat → Except AccessError α} {n : Nat} (h : IsLast outcome budget n)
    (he : ∀ i, 0 < i → outcome i = outcome' i) : IsLast outcome' budget n where
  pos := h.pos
  le := h.le
  before i hp hi := he i hp ▸ h.before i hp hi
  final hn := he n h.pos ▸ h.final hn

end IsLast

namespace RetryPolicy

variable {σ α : Type} (p : RetryPolicy) (config : Config) (call : Call)
  (attempt : Nat → Run σ (Except AccessError α)) (s : σ)

-- The state that the first attempts leave behind.
def stateAfter : Nat → σ
  | 0 => s
  | n + 1 => (attempt (n + 1) (stateAfter n)).state

-- What an attempt comes to after all those before it.
def nth (n : Nat) : Outcome σ (Except AccessError α) :=
  attempt n (stateAfter attempt s (n - 1))

def failureRecord (number : Nat) : Except AccessError α → Run σ Unit
  | .ok _ => pure ()
  | .error e =>
    if e.isRetryable then
      config.log .debug "attempt_failed" call
        ("attempt " ++ toString number ++ "/" ++ toString p.attempts ++ " failed: " ++ e.description)
    else pure ()

-- Everything that can be observed of one attempt, with the pause before it.
def round (n : Nat) : List Effect :=
  (p.pauseBefore config call n (stateAfter attempt s (n - 1))).effects ++ (nth attempt s n).effects ++
    (p.failureRecord config call n (nth attempt s n).value (stateAfter attempt s n)).effects

def trace : Nat → List Effect
  | 0 => []
  | n + 1 => trace n ++ p.round config call attempt s (n + 1)

-- What the first attempts come to, taken together.
def made (n : Nat) : Outcome σ (Except AccessError α) :=
  ⟨(nth attempt s n).value, p.trace config call attempt s n, stateAfter attempt s n⟩

theorem attempts_pos : 0 < p.attempts := by
  unfold attempts UInt32.size
  omega

@[simp]
theorem pauseBefore_state (number : Nat) : (p.pauseBefore config call number s).state = s := by
  unfold pauseBefore
  split <;> simp

@[simp]
theorem deeds_pauseBefore (number : Nat) :
    Effect.deeds (p.pauseBefore config call number s).effects =
      if 1 < number then [.paused p.delay] else [] := by
  unfold pauseBefore
  split <;> simp [*]

@[simp]
theorem failureRecord_state (number : Nat) (r : Except AccessError α) :
    (p.failureRecord config call number r s).state = s := by
  cases r
  case ok => rfl
  case error e =>
    simp only [failureRecord]
    split <;> simp

@[simp]
theorem deeds_failureRecord (number : Nat) (r : Except AccessError α) :
    Effect.deeds (p.failureRecord config call number r s).effects = [] := by
  cases r
  case ok => rfl
  case error e =>
    simp only [failureRecord]
    split <;> simp

-- Apart from records, an attempt shows the pause before it and what it does itself.
theorem deeds_round (n : Nat) :
    Effect.deeds (p.round config call attempt s n) =
      (if 1 < n then [.paused p.delay] else []) ++ Effect.deeds (nth attempt s n).effects := by
  simp [round]

-- One attempt, and the others if it calls for them.
theorem runFrom_succ (left number : Nat) :
    p.runFrom config call attempt (left + 1) number = (do
      p.pauseBefore config call number
      let r ← attempt number
      p.failureRecord config call number r
      if left ≠ 0 ∧ IsTransient r then p.runFrom config call attempt left (number + 1) else pure r) := by
  rw [runFrom]
  congr 1
  funext _
  congr 1
  funext r
  cases r
  case ok v => simp [failureRecord, IsTransient]
  case error e =>
    by_cases he : e.isRetryable
    case pos =>
      have ht : IsTransient (.error e : Except AccessError α) := AccessError.isRetryable_iff.mp he
      by_cases hl : left = 0
      case pos => simp [failureRecord, he, hl]; rfl
      case neg => simp [failureRecord, he, ht, hl]; rfl
    case neg =>
      have ht : ¬IsTransient (.error e : Except AccessError α) := mt AccessError.isRetryable_iff.mpr he
      simp [failureRecord, he, ht]

-- The step: after `n` attempts, the next one settles the run or leaves it to the others.
theorem runFrom_settled (left n : Nat) (h : left = 0 ∨ ¬IsTransient (nth attempt s (n + 1)).value) :
    p.runFrom config call attempt (left + 1) (n + 1) (stateAfter attempt s n) =
      ⟨(nth attempt s (n + 1)).value, p.round config call attempt s (n + 1),
        stateAfter attempt s (n + 1)⟩ := by
  have hn : ¬(left ≠ 0 ∧ IsTransient (attempt (n + 1) (stateAfter attempt s n)).value) := by
    intro ⟨hl, ht⟩
    cases h
    case inl h => exact hl h
    case inr h => exact h ht
  simp [runFrom_succ, Run.bind_apply, hn, round, nth, stateAfter]

theorem runFrom_continued (left n : Nat) (hl : left ≠ 0)
    (ht : IsTransient (nth attempt s (n + 1)).value) :
    p.runFrom config call attempt (left + 1) (n + 1) (stateAfter attempt s n) =
      let o := p.runFrom config call attempt left (n + 2) (stateAfter attempt s (n + 1))
      ⟨o.value, p.round config call attempt s (n + 1) ++ o.effects, o.state⟩ := by
  have hn : left ≠ 0 ∧ IsTransient (attempt (n + 1) (stateAfter attempt s n)).value := ⟨hl, ht⟩
  simp [runFrom_succ, Run.bind_apply, hn, round, nth, stateAfter]

-- The run from any point on, by induction on the attempts that are left.
theorem runFrom_spec (left n : Nat) :
    ∃ k, n < k ∧ k ≤ n + left + 1 ∧ (∀ i, n < i → i < k → IsTransient (nth attempt s i).value) ∧
      (k < n + left + 1 → ¬IsTransient (nth attempt s k).value) ∧
      let o := p.runFrom config call attempt (left + 1) (n + 1) (stateAfter attempt s n)
      o.value = (nth attempt s k).value ∧ o.state = stateAfter attempt s k ∧
        p.trace config call attempt s n ++ o.effects = p.trace config call attempt s k := by
  induction left generalizing n
  case zero =>
    have h := p.runFrom_settled config call attempt s 0 n (.inl rfl)
    refine ⟨n + 1, by omega, by omega, by omega, by omega, ?_⟩
    simp [h, trace]
  case succ left hi =>
    by_cases ht : IsTransient (nth attempt s (n + 1)).value
    case neg =>
      have h := p.runFrom_settled config call attempt s (left + 1) n (.inr ht)
      refine ⟨n + 1, by omega, by omega, by omega, fun _ => ht, ?_⟩
      simp [h, trace]
    case pos =>
      have h := p.runFrom_continued config call attempt s (left + 1) n (Nat.succ_ne_zero left) ht
      have ⟨k, hn, hk, hb, hf, hv, hs, he⟩ := hi (n + 1)
      refine ⟨k, by omega, by omega, ?_, fun hk => hf (by omega), ?_⟩
      · intro i hi₁ hi₂
        by_cases hi : i = n + 1
        case pos => exact hi ▸ ht
        case neg => exact hb i (by omega) hi₂
      · simp_all [trace]

-- The run is made of the attempts up to the last one that is called for, and of no others.
theorem run_eq_made :
    ∃ n, IsLast (fun i => (nth attempt s i).value) p.attempts n ∧
      p.run config call attempt s = p.made config call attempt s n := by
  have hp := p.attempts_pos
  have ⟨n, hn, hl, hb, hf, hv, hs, he⟩ := p.runFrom_spec config call attempt s (p.attempts - 1) 0
  have ha : p.attempts - 1 + 1 = p.attempts := by omega
  simp only [Nat.zero_add, ha, trace, List.nil_append, stateAfter] at hl hf hv hs he
  refine ⟨n, { pos := hn, le := hl, before := hb, final := hf }, ?_⟩
  simp [run, made, ← hv, ← hs, ← he]

-- Whatever comes of a run, the first attempt is made first.
theorem trace_eq_append (n : Nat) :
    ∃ es, p.trace config call attempt s (n + 1) = p.round config call attempt s 1 ++ es := by
  induction n
  case zero => exact ⟨[], by simp [trace]⟩
  case succ n hi =>
    have ⟨es, he⟩ := hi
    exact ⟨_, by rw [trace, he, List.append_assoc]⟩

-- No attempt follows a first one that is final.
theorem run_first_final (h : ¬IsTransient (attempt 1 s).value) :
    p.run config call attempt s = p.made config call attempt s 1 := by
  have ⟨n, hl, hr⟩ := p.run_eq_made config call attempt s
  have hn : n = 1 := hl.eq_of_final Nat.one_pos p.attempts_pos (by omega) h
  rw [hr, hn]

end RetryPolicy
end AccessControl
