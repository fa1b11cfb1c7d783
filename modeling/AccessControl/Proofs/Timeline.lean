import AccessControl.Proofs.Retry
import Mathlib

namespace AccessControl

namespace RetryPolicy

open Effect

variable {σ α : Type} (config : Config) (call : Call)

-- What is recorded about attempts, if debug records are asked for.
def noted (name message : String) : List Effect :=
  config.recorded ⟨name, .debug, call.time, some call.requestId, message⟩

def ordinalText (number budget : Nat) : String :=
  "attempt " ++ toString number ++ "/" ++ toString budget

-- The pause between two attempts, announced by the number of the second one.
def between (budget delay number : Nat) : List Effect :=
  noted config call "retry_scheduled"
    (ordinalText number budget ++ " after " ++ toString delay ++ "ms") ++ [.paused delay]

def complaint (budget number : Nat) : Except AccessError α → List Effect
  | .ok _ => []
  | .error e =>
    if e.kind = .timeout ∨ e.kind = .network then
      noted config call "attempt_failed" (ordinalText number budget ++ " failed: " ++ e.description)
    else []

variable (attempt : Nat → Run σ (Except AccessError α)) (s : σ)

-- What shows of an attempt by its number: whatever it does itself, and that it failed.
def shown (budget number : Nat) : List Effect :=
  (nth attempt s number).effects ++ complaint config call budget number (nth attempt s number).value

-- The first attempt, and then others, each after a pause.
def timeline (budget delay count : Nat) : List Effect :=
  shown config call attempt s budget 1 ++
    (List.range' 2 (count - 1)).flatMap fun number =>
      between config call budget delay number ++ shown config call attempt s budget number

variable (p : RetryPolicy)

theorem pauseBefore_first : (p.pauseBefore config call 1 s).effects = [] := rfl

theorem pauseBefore_later {number : Nat} (h : 1 < number) :
    (p.pauseBefore config call number s).effects = between config call p.attempts p.delay number := by
  rw [pauseBefore, if_pos h, Run.bind_effects, Config.log_effects]
  rfl

theorem failureRecord_effects (number : Nat) (r : Except AccessError α) :
    (p.failureRecord config call number r s).effects = complaint config call p.attempts number r := by
  cases r
  case ok v => rfl
  case error e =>
    by_cases he : e.isRetryable = true
    case pos =>
      rw [complaint, if_pos (AccessError.isRetryable_iff.mp he), failureRecord, if_pos he,
        Config.log_effects]
      rfl
    case neg =>
      rw [complaint, if_neg (mt AccessError.isRetryable_iff.mpr he), failureRecord, if_neg he]
      rfl

theorem round_eq (number : Nat) :
    p.round config call attempt s number =
      (p.pauseBefore config call number (stateAfter attempt s (number - 1))).effects ++
        shown config call attempt s p.attempts number := by
  rw [round, failureRecord_effects, List.append_assoc]
  rfl

theorem timeline_succ (budget delay n : Nat) :
    timeline config call attempt s budget delay (n + 2) =
      timeline config call attempt s budget delay (n + 1) ++
        (between config call budget delay (n + 2) ++ shown config call attempt s budget (n + 2)) := by
  simp [timeline, List.range'_1_concat, Nat.add_comm 2 n]

-- The step is one more attempt after a pause; the whole, by induction on their number.
theorem trace_eq_timeline (n : Nat) :
    p.trace config call attempt s (n + 1) =
      timeline config call attempt s p.attempts p.delay (n + 1) := by
  induction n
  case zero =>
    rw [trace, trace, round_eq, pauseBefore_first, timeline]
    simp
  case succ n hi =>
    rw [trace, hi, round_eq, pauseBefore_later _ _ _ _ (by omega), timeline_succ]

theorem pauses_between (budget delay number : Nat) :
    pauses (between config call budget delay number) = [delay] := by
  rw [between, pauses_append, noted, config.pauses_recorded]
  rfl

theorem pauses_shown (budget number : Nat) :
    pauses (shown config call attempt s budget number) = pauses (nth attempt s number).effects := by
  have hc (r : Except AccessError α) : pauses (complaint config call budget number r) = [] := by
    cases r
    case ok v => rfl
    case error e =>
      by_cases he : e.kind = .timeout ∨ e.kind = .network
      case pos => rw [complaint, if_pos he, noted, config.pauses_recorded]
      case neg => rw [complaint, if_neg he, pauses_nil]
  rw [shown, pauses_append, hc, List.append_nil]

-- Time spent on pauses: one between each two attempts, besides those that attempts take themselves.
theorem pauses_timeline (budget delay n : Nat) :
    (pauses (timeline config call attempt s budget delay (n + 1))).sum =
      n * delay +
        ((List.range' 1 (n + 1)).map fun number => (pauses (nth attempt s number).effects).sum).sum := by
  induction n
  case zero => simp [timeline, pauses_shown]
  case succ n hi =>
    have hs : (List.range' 1 (n + 2)).map (fun number => (pauses (nth attempt s number).effects).sum) =
        (List.range' 1 (n + 1)).map (fun number => (pauses (nth attempt s number).effects).sum) ++
          [(pauses (nth attempt s (n + 2)).effects).sum] := by
      rw [List.range'_1_concat, List.map_append, Nat.add_comm 1 (n + 1)]
      rfl
    rw [timeline_succ, pauses_append, pauses_append, pauses_between, pauses_shown, List.sum_append, hi, hs,
      List.sum_append, Nat.succ_mul]
    simp only [List.sum_append, List.sum_singleton]
    omega

theorem run_timeline (p : RetryPolicy) :
    let budget := min (p.retryCount.toNat + 1) (2 ^ 32 - 1)
    let outcome (number : Nat) := (nth attempt s number).value
    let o := p.run config call attempt s
    ∃ count, IsLast outcome budget count ∧
      o.value = outcome count ∧
      o.effects = timeline config call attempt s budget p.delay count ∧
      o.state = stateAfter attempt s count ∧
      (pauses o.effects).sum =
        (count - 1) * p.delay +
          ((List.range' 1 count).map fun number => (pauses (nth attempt s number).effects).sum).sum ∧
      (count - 1) * p.delay ≤ p.retryCount.toNat * p.delay := by
  intro budget outcome o
  have ⟨count, hl, hr⟩ := p.run_eq_made config call attempt s
  have ⟨n, hn⟩ := Nat.exists_eq_succ_of_ne_zero (Nat.ne_of_gt hl.pos)
  subst hn
  have ho : o = p.made config call attempt s (n + 1) := hr
  have he : o.effects = timeline config call attempt s budget p.delay (n + 1) := by
    rw [ho]
    exact trace_eq_timeline config call attempt s p n
  have hm : n * p.delay ≤ p.retryCount.toNat * p.delay := by
    have hle : n + 1 ≤ p.retryCount.toNat + 1 := Nat.le_trans hl.le (Nat.min_le_left ..)
    exact Nat.mul_le_mul_right p.delay (Nat.le_of_succ_le_succ hle)
  refine ⟨n + 1, hl, by rw [ho]; rfl, he, by rw [ho]; rfl, ?_, hm⟩
  rw [he]
  exact pauses_timeline config call attempt s budget p.delay n

end RetryPolicy
end AccessControl
