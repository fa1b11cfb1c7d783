import AccessControl.Proofs.Request
import AccessControl.Transport.Scripted

namespace AccessControl

namespace Script

-- The outcome of an attempt, by its number.
def due (script : Script) (n : Nat) : Scripted :=
  (script[n - 1]? <|> script.getLast?).getD (.success .null)

theorem next_fst (script : Script) : script.next.1 = script.due 1 := by
  match script with
  | [] | [_] | _ :: _ :: _ => rfl

theorem due_next_snd (script : Script) (n : Nat) :
    due script.next.2 (n + 1) = script.due (n + 2) := by
  match script with
  | [] => rfl
  | [_] => cases n <;> simp [next, due]
  | _ :: _ :: _ => simp [next, due]

end Script

theorem Transport.scripted_passive : scripted.Passive := fun _ => { attempts := fun _ => rfl }

namespace Client

open Effect RetryPolicy

def scripted (config : Config) : Client Script :=
  { config, transport := .scripted }

variable (config : Config) (script : Script) (call : Call) (endpoint : Endpoint) (payload : Json)
  (a : Attempt)

theorem due_stateAfter (n k : Nat) :
    Script.due (stateAfter ((scripted config).attempting a) script n) (k + 1) =
      script.due (n + k + 1) := by
  induction n generalizing k
  case zero => simp [stateAfter]
  case succ n hi =>
    have hn := Script.due_next_snd (stateAfter ((scripted config).attempting a) script n) k
    rw [hi (k + 1)] at hn
    rw [show n + 1 + k + 1 = n + (k + 1) + 1 by omega, ← hn]
    rfl

-- The attempts meet the outcomes of the script in its order.
theorem nth_scripted (n : Nat) (h : 0 < n) :
    (nth ((scripted config).attempting a) script n).value =
      (script.due n).outcome a.call a.config.timeout := by
  have ⟨m, hm⟩ : ∃ m, n = m + 1 := ⟨n - 1, by omega⟩
  subst hm
  have hd := due_stateAfter config script a m 0
  simp only [Nat.add_zero, Nat.zero_add] at hd
  rw [← hd, ← Script.next_fst]
  rfl

theorem nth_scripted_effects (n : Nat) :
    (nth ((scripted config).attempting a) script n).effects = [.attempted a] := rfl

theorem pauses_trace (p : RetryPolicy) (n : Nat) :
    pauses (p.trace config call ((scripted config).attempting a) script n) =
      List.replicate (n - 1) p.delay := by
  induction n
  case zero => rfl
  case succ n hi =>
    have hr := deeds_round p config call ((scripted config).attempting a) script (n + 1)
    rw [nth_scripted_effects] at hr
    rw [trace, pauses_append, hi, ← pauses_deeds (p.round ..), hr]
    cases n
    case zero => simp
    case succ n => simp [List.replicate_succ']

theorem execute_scripted :
    ∃ n, IsLast (fun i => (script.due i).outcome call config.timeout) (RetryPolicy.ofConfig config).attempts n ∧
      let o := (scripted config).execute call endpoint payload script
      o.value = (script.due n).outcome call config.timeout ∧
        attempts o.effects = List.replicate n ((scripted config).attemptOf call endpoint payload) ∧
        pauses o.effects = List.replicate (n - 1) config.retryDelay := by
  have ⟨n, hl, he⟩ := (scripted config).execute_eq_made call endpoint payload script
  refine ⟨n, hl.congr <| nth_scripted config script _, ?_⟩
  simp only [he, made]
  exact ⟨nth_scripted config script _ n hl.pos, attempts_trace Transport.scripted_passive .., pauses_trace ..⟩

theorem request_scripted :
    ∃ n, IsLast (fun i => (script.due i).outcome call config.timeout) (RetryPolicy.ofConfig config).attempts n ∧
      let o := (scripted config).request call (.ok ()) endpoint payload script
      o.value = reading call ((script.due n).outcome call config.timeout) ∧
        attempts o.effects = List.replicate n ((scripted config).attemptOf call endpoint payload) ∧
        pauses o.effects = List.replicate (n - 1) config.retryDelay := by
  have ⟨n, hl, hv, ha, hp⟩ := execute_scripted config script call endpoint payload
  refine ⟨n, hl, ?_⟩
  rw [request_passed]
  exact ⟨congrArg (reading call) hv, ha, hp⟩

end Client
end AccessControl
