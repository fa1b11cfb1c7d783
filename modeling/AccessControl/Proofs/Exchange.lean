import AccessControl.Proofs.Effects
import AccessControl.Transport.Https

namespace AccessControl

open Effect

-- Nothing stands in the way of sending the attempt to the URL.
structure Attempt.Reaches (a : Attempt) (file : Volume.Reader) (url : Http.Url) : Prop where
  sender : checkSender file a.config a.call.requestId = .ok ()
  read : Http.Url.read? a.url = some url
  token : Http.isHeaderText a.config.apiToken = true
  timeout : a.config.timeout ≠ 0
  length : (shownUrl url).length ≤ maxUrl
  host : url.host.canBeAsked = true

-- Neither a file nor a name is needed to reach a service on the same machine.
theorem Attempt.reaches_loopback (file : Volume.Reader) (payload : Json) (call : Call) :
    let config : Config := { apiUrl := "http://127.0.0.1:18080", apiToken := "token" }
    let url : Http.Url := ⟨.http, "", "", .loopback, some 18080, "/access/v2/evaluations", none, none⟩
    Attempt.Reaches ⟨.evaluations, payload, call, config⟩ file url := by
  intro config url
  have ha : Http.isHeaderText config.userAgent = true := by decide +kernel
  have hr : Http.Url.read? (Endpoint.evaluations.url config) = some url := by decide +kernel
  have hk : Http.isHeaderText config.apiToken = true := by decide +kernel
  have ht : config.timeout ≠ 0 := by decide
  exact
    { sender := if_pos (by rw [ha]; rfl)
      read := hr
      token := hk
      timeout := ht
      length := by decide +kernel
      host := by decide +kernel }

section Read

variable {limit : Nat} {r : Http.Response} (h : r.ending = .complete)
include h

-- A body within the limit is taken whole: the byte beyond the limit is asked for, and there is none.
theorem Http.Response.take_complete :
    r.take limit = if limit < r.body.length then .error .tooLarge else .ok r.body := by
  have hl : limit < (r.body.take (limit + 1)).length ↔ limit < r.body.length := by
    rw [List.length_take]
    omega
  simp only [take, hl, h]
  split
  case isTrue => rfl
  case isFalse => rw [List.take_of_length_le (by omega)]

-- A body that is complete is taken up to the limit, and not beyond.
theorem Http.Response.read_complete :
    r.read limit =
      if r.declared.any (limit < ·) || limit < r.body.length then .error .tooLarge else .ok r.body := by
  rw [read, take_complete h, isOverlong]
  cases r.declared.any (limit < ·) <;> simp

end Read

variable {σ : Type} {a : Attempt} {r : Http.Response} {s : σ} {body : Bytes}

@[simp]
theorem readResponse_state : (readResponse a r s).state = s := by
  unfold readResponse
  cases r.read maxResponseBytes
  case error e => rfl
  case ok body => by_cases hs : r.status = 200 <;> simp [hs]

@[simp]
theorem deeds_readResponse : deeds (readResponse a r s).effects = [] := by
  unfold readResponse
  cases r.read maxResponseBytes
  case error e => rfl
  case ok body => by_cases hs : r.status = 200 <;> simp [hs]

theorem readResponse_status (h : r.read maxResponseBytes = .ok body) (hs : r.status ≠ 200) :
    (readResponse a r s).value =
      .error (.ofStatus r.status (some <| Utf8.decodeStringLossy body) a.call.requestId) := by
  simp [readResponse, h, hs]

theorem readResponse_ok_iff {json : Json} :
    (readResponse a r s).value = .ok json ↔
      ∃ body, r.read maxResponseBytes = .ok body ∧ r.status = 200 ∧ Json.read body = .ok json := by
  unfold readResponse
  cases hr : r.read maxResponseBytes
  case error e => simp
  case ok body =>
    by_cases hs : r.status = 200
    case neg => simp [hs]
    case pos => simp [hs, mapError_eq_ok_iff]

variable {file : Volume.Reader} (service : Service σ) {url : Http.Url}

variable {service} in
theorem deliver_response (h : (service.deliver url (a.request url) s).value = .response r) :
    let d := service.deliver url (a.request url) s
    let o := deliver service a url s
    o.value = (readResponse a r d.state).value ∧ deeds o.effects = deeds d.effects ∧ o.state = d.state := by
  simp [deliver, h]

-- Warnings and records apart, an attempt that reaches its URL is its delivery.
theorem send_agrees (h : a.Reaches file url) :
    ((Transport.https file service).send a).Agrees (deliver service a url) := by
  have hl : (decide (maxUrl < (shownUrl url).length) || !url.host.canBeAsked) = false := by
    rw [h.host, decide_eq_false (Nat.not_lt.mpr h.length)]
    rfl
  have hd : (a.config.log .debug "request_sent" a.call ("POST " ++ a.url) >>= fun _ =>
      deliver service a url).Agrees (deliver service a url) := Config.log_bind_agrees ..
  simp only [Transport.https, h.sender, h.read, h.token, if_neg h.timeout, hl, Bool.false_eq_true, if_false]
  cases a.config.validateSsl <;> cases a.config.isCleartext <;>
    simp only [Bool.not_true, Bool.not_false, Bool.false_eq_true, if_true, if_false]
  case false.false => exact (Config.log_bind_agrees ..).trans hd
  case false.true =>
    exact (Config.log_bind_agrees ..).trans <| (Config.log_bind_agrees ..).trans hd
  case true.false => exact hd
  case true.true => exact (Config.log_bind_agrees ..).trans hd

end AccessControl
