import AccessControl.Proofs.Denotation
import AccessControl.Proofs.Exchange
import AccessControl.Proofs.Retry
import AccessControl.Transport.Tape

namespace AccessControl

open Effect Json

namespace Http.Response

-- A response as it was sent: all of its body, with or without the length of it in advance.
structure IsFaithful (r : Response) : Prop where
  complete : r.ending = .complete
  declared : r.declared = none ∨ r.declared = some r.body.length

variable {limit : Nat} {r : Response}

-- The two checks on the length of a body have the same bodies pass.
theorem isOverlong_iff (h : r.ending = .complete) (hd : r.declared = some r.body.length) :
    r.isOverlong limit = true ↔ r.take limit = .error .tooLarge := by
  rw [take_complete h]
  simp [isOverlong, hd]

theorem IsFaithful.read (h : r.IsFaithful) (limit : Nat) :
    r.read limit = if r.body.length ≤ limit then .ok r.body else .error .tooLarge := by
  rw [read_complete h.complete]
  by_cases hl : limit < r.body.length
  case pos => simp [hl]
  case neg =>
    have hd : r.declared.any (limit < ·) = false := by
      rcases h.declared with hd | hd <;> simp [hd, hl]
    simp [hd, hl, Nat.not_lt.mp hl]

end Http.Response

section

variable {σ : Type} {a : Attempt} {r : Http.Response} {s : σ} {e : AccessError}

-- Whatever is wrong with a response is reported under its request.
theorem readResponse_error (h : r.IsFaithful) (he : (readResponse a r s).value = .error e) :
    e.requestId = a.call.requestId ∧ (r.status = 200 → e.kind = .network) := by
  unfold readResponse at he
  rw [h.read] at he
  by_cases hl : r.body.length ≤ maxResponseBytes
  case neg =>
    simp only [if_neg hl] at he
    cases he
    exact ⟨rfl, fun _ => rfl⟩
  case pos =>
    by_cases hs : r.status = 200
    case neg =>
      simp [if_pos hl, hs] at he
      exact ⟨he ▸ rfl, fun h => absurd h hs⟩
    case pos =>
      simp [if_pos hl, hs] at he
      cases hj : read r.body <;> rw [hj] at he <;> cases he
      exact ⟨rfl, fun _ => rfl⟩

theorem readResponse_accepts (h : r.IsFaithful) {v : Json} :
    (readResponse a r s).value = .ok v ↔
      r.status = 200 ∧ r.body.length ≤ maxResponseBytes ∧ DenotesText maxDepth r.body v := by
  rw [readResponse_ok_iff, h.read]
  by_cases hl : r.body.length ≤ maxResponseBytes <;> simp [hl, read_eq_ok_iff]

end

-- Lists in each other, the innermost one empty.
def nested : Nat → Json
  | 0 => .array []
  | n + 1 => .array [nested n]

theorem restorable_nested (n : Nat) : Restorable (n + 1) (nested n) := by
  induction n
  case zero => exact .array (by simp)
  case succ n hi => exact .array (by simpa using hi)

theorem written_nested (n : Nat) :
    written (nested n) = List.replicate (n + 1) 0x5B ++ List.replicate (n + 1) 0x5D := by
  induction n
  case zero => simp [nested, written_array, row]
  case succ n hi =>
    rw [List.replicate_succ, List.replicate_succ' (n := n + 1)]
    simp [nested, written_array, row, entries, hi]

namespace Transport

variable {σ : Type} {file : Volume.Reader} {service : Service σ} {a : Attempt} {url : Http.Url} {r : Http.Response}
  {s : σ}

theorem send_accepts (h : a.Reaches file url) (hr : (service.deliver url (a.request url) s).value = .response r)
    (hf : r.IsFaithful) :
    let o := (https file service).send a s
    (∀ v, o.value = .ok v ↔
      r.status = 200 ∧ r.body.length ≤ maxResponseBytes ∧ DenotesText maxDepth r.body v) ∧
    (∀ e, o.value = .error e → e.requestId = a.call.requestId ∧
      (r.status = 200 → e.kind = .network ∧ e.isRetryable = true)) ∧
    (∀ declared, declared = none ∨ declared = some r.body.length →
      { r with declared }.read maxResponseBytes =
        if r.body.length ≤ maxResponseBytes then .ok r.body else .error .tooLarge) ∧
    ({ r with declared := some r.body.length }.isOverlong maxResponseBytes = true ↔
      r.take maxResponseBytes = .error .tooLarge) := by
  intro o
  have hv : o.value = _ := ((send_agrees service h).value s).trans (deliver_response hr).left
  refine ⟨fun v => ?accepted, fun e he => ?refused, fun declared hd => ?framings, ?checks⟩
  case accepted => rw [hv, readResponse_accepts hf]
  case refused =>
    rw [hv] at he
    have ⟨hi, hk⟩ := readResponse_error hf he
    exact ⟨hi, fun hs => ⟨hk hs, AccessError.isRetryable_iff.mpr (.inr (hk hs))⟩⟩
  case framings => exact Http.Response.IsFaithful.read (r := { r with declared }) ⟨hf.complete, hd⟩ _
  case checks => exact Http.Response.isOverlong_iff (r := { r with declared := some r.body.length }) hf.complete rfl

-- At the limit to the byte, in either framing, and one byte beyond it.
theorem send_accepts_limit :
    let a : Attempt := ⟨.evaluations, .null, ⟨⟨"r"⟩, 0⟩, { apiUrl := "http://127.0.0.1:18080", apiToken := "token" }⟩
    let body : Bytes := List.replicate 1048572 0x20 ++ nullWord
    let value (r : Http.Response) :=
      ((https (fun _ => .error .notFound) Tape.service).send a { deliveries := [.response r] }).value
    body.length = maxResponseBytes ∧ value ⟨200, none, body, .complete⟩ = .ok .null ∧
      value ⟨200, some body.length, body, .complete⟩ = .ok .null ∧
      ∀ v, value ⟨200, none, 0x20 :: body, .complete⟩ ≠ .ok v := by
  intro a body value
  have hu : a.Reaches (fun _ => .error .notFound) _ := Attempt.reaches_loopback _ .null ⟨⟨"r"⟩, 0⟩
  have hl : body.length = maxResponseBytes := by
    rw [List.length_append, List.length_replicate]
    rfl
  have hg : IsGap (List.replicate 1048572 0x20) := fun b hb => List.eq_of_mem_replicate hb ▸ rfl
  have hv : DenotesText maxDepth body .null := ⟨⟨_, nullWord, [], hg, isGap_nil⟩, rfl, .null⟩
  have accepts (r : Http.Response) (hf : r.IsFaithful) (v : Json) : value r = .ok v ↔
      r.status = 200 ∧ r.body.length ≤ maxResponseBytes ∧ DenotesText maxDepth r.body v :=
    (send_accepts hu rfl hf).left v
  refine ⟨hl, ?_, ?_, fun v hn => ?_⟩
  · exact (accepts _ ⟨rfl, .inl rfl⟩ .null).mpr ⟨rfl, Nat.le_of_eq hl, hv⟩
  · exact (accepts _ ⟨rfl, .inr rfl⟩ .null).mpr ⟨rfl, Nat.le_of_eq hl, hv⟩
  · have ⟨_, hb, _⟩ := (accepts _ ⟨rfl, .inl rfl⟩ v).mp hn
    rw [List.length_cons, hl] at hb
    exact absurd hb (Nat.not_succ_le_self _)

-- A decision with 127 lists in each other beside it: a text, but with one bracket too many.
theorem send_refuses_nested :
    let a : Attempt := ⟨.evaluations, .null, ⟨⟨"r"⟩, 0⟩, { apiUrl := "http://127.0.0.1:18080", apiToken := "token" }⟩
    let v : Json := .object [("decisions", .array [.object [("decision", .string "Allow")]]), ("x", nested 126)]
    let body := Utf8.encodeString "\x7b\"decisions\":[\x7b\"decision\":\"Allow\"\x7d],\"x\":" ++
      (List.replicate 127 0x5B ++ List.replicate 127 0x5D ++ [0x7D])
    let r : Http.Response := ⟨200, none, body, .complete⟩
    let o := (https (fun _ => .error .notFound) Tape.service).send a { deliveries := [.response r] }
    r.IsFaithful ∧ body.length ≤ maxResponseBytes ∧ DenotesText (maxDepth + 1) body v ∧
      ∃ e, o.value = .error e ∧ e.kind = .network ∧ e.message = "invalid JSON response: recursion limit exceeded" := by
  intro a v body r o
  have he : (match o.value with
      | .ok _ => none
      | .error e => some (e.kind, e.message)) = some (.network, "invalid JSON response: recursion limit exceeded") := by
    decide +kernel
  have hv : Restorable (maxDepth + 1) v := by
    have hd : Restorable maxDepth (.array [.object [("decision", .string "Allow")]]) :=
      .array (by simpa using .object rfl (by simpa using .string "Allow"))
    have hk : "decisions" < "x" := by decide
    exact .object (by simp [sortMembers, insertNew, hk]) (by simpa using ⟨hd, restorable_nested 126⟩)
  have hw : written v = body := by
    simp only [v, written_object, written_array, row, entries, List.flatMap_cons, List.flatMap_nil, memberText,
      writtenMember, written_nested]
    decide +kernel
  have ht : DenotesText (maxDepth + 1) body v := hw ▸ denotesText_written hv
  cases ho : o.value
  case ok => simp [ho] at he
  case error e =>
    simp only [ho, Option.some.injEq, Prod.mk.injEq] at he
    exact ⟨⟨rfl, .inl rfl⟩, by decide +kernel, ht, e, rfl, he⟩

end Transport

end AccessControl
