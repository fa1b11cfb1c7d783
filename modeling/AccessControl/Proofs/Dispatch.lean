import AccessControl.Proofs.Origin
import AccessControl.Proofs.Parts
import AccessControl.Proofs.Sent

namespace AccessControl

open Effect

namespace Attempt

def tlsWarning (a : Attempt) : Log.Event :=
  a.call.event .warn "tls_verification_disabled" "TLS certificate verification is disabled for this request"

def cleartextWarning (a : Attempt) : Log.Event :=
  a.call.event .warn "cleartext_transport" ("sending request over cleartext HTTP to " ++ a.url)

end Attempt

namespace Transport

variable {σ : Type} {file : Volume.Reader} {service : Service σ} {a : Attempt} {s : σ}

-- What is left of an attempt once its sender is settled and all warnings are given.
def dispatch (service : Service σ) (a : Attempt) : Run σ (Except AccessError Json) := do
  let fail (f : TransportFailure) : Run σ (Except AccessError Json) :=
    return .error (.ofTransport f a.config.timeout a.call.requestId)
  a.config.log .debug "request_sent" a.call ("POST " ++ a.url)
  match Http.Url.read? a.url, Http.isHeaderText a.config.apiToken with
  | some url, true =>
    if a.config.timeout = 0 then fail .timedOut
    else if maxUrl < (shownUrl url).length || !url.host.canBeAsked then
      fail (.other ("builder error for url (" ++ shownUrl url ++ ")"))
    else deliver service a url
  | _, _ => fail (.other "builder error")

theorem https_send (file : Volume.Reader) (service : Service σ) (a : Attempt) :
    (https file service).send a = (do
      if !a.config.validateSsl then Run.emit (.logged a.tlsWarning)
      match checkSender file a.config a.call.requestId with
      | .error e => return .error e
      | .ok () => do
        if a.config.isCleartext then Run.emit (.logged a.cleartextWarning)
        dispatch service a) := by
  simp only [https, dispatch]
  generalize Http.Url.read? a.url = url?
  cases a.config.validateSsl <;> cases checkSender file a.config a.call.requestId <;>
    cases a.config.isCleartext <;> cases url? <;> rfl

theorem send_effects (file : Volume.Reader) (service : Service σ) (a : Attempt) (s : σ) :
    ((https file service).send a s).effects =
      (if a.config.validateSsl then [] else [.logged a.tlsWarning]) ++
        match checkSender file a.config a.call.requestId with
        | .error _ => []
        | .ok () =>
          (if a.config.isCleartext then [.logged a.cleartextWarning] else []) ++ (dispatch service a s).effects := by
  rw [https_send]
  cases a.config.validateSsl <;> cases checkSender file a.config a.call.requestId <;>
    cases a.config.isCleartext <;> simp

theorem readResponse_plain (a : Attempt) (r : Http.Response) :
    (readResponse a r : Run σ (Except AccessError Json)).Plain := by
  unfold readResponse
  cases r.read maxResponseBytes
  case error e => exact .pure _
  case ok body => exact .log_bind (by decide) <| .ite (.pure _) (.pure _)

theorem deliver_plain (h : service.Quiet) (a : Attempt) (url : Http.Url) : (deliver service a url).Plain := by
  refine .bind { effects := fun s e he => .inr <| h url _ s e he } fun d => ?_
  cases d
  case response r => exact readResponse_plain a r
  all_goals exact .pure _

theorem dispatch_plain (h : service.Quiet) (a : Attempt) : (dispatch service a).Plain := by
  refine .log_bind (by decide) ?_
  cases Http.Url.read? a.url
  case none => exact .pure _
  case some url =>
    cases Http.isHeaderText a.config.apiToken
    case false => exact .pure _
    case true => exact .ite (.pure _) <| .ite (.pure _) <| deliver_plain h a url

end Transport

variable {σ : Type} {config : Config} {call : Call} {file : Volume.Reader} {service : Service σ} {a : Attempt}
  {op : Operation} {path : String} {e : AccessError} {s : σ}

theorem checkSender_unreadable {e : FileError} (hv : config.validateSsl = true)
    (hp : config.caBundlePath = some path) (hf : file path = .error e) (id : RequestId) :
    checkSender file config id =
      .error (.config ("failed to read CA bundle " ++ path ++ ": " ++ e.message) id) := by
  simp only [checkSender, hv, hp, readAuthorities, hf]
  rfl

theorem readAuthorities_kind {id : RequestId} (h : readAuthorities file path id = .error e) :
    e.kind = .config := by
  unfold readAuthorities at h
  cases hf : file path <;> simp only [hf] at h
  case error => exact Except.error.inj h ▸ rfl
  case ok pem =>
    cases hp : Pem.certificates? pem <;> simp only [hp] at h
    case none => exact Except.error.inj h ▸ rfl
    case some => contradiction

-- Trying again does not help a sender that cannot be settled.
theorem checkSender_final {id : RequestId} (h : checkSender file config id = .error e) :
    ¬(e.kind = .timeout ∨ e.kind = .network) := by
  have hu {p : Prop} [Decidable p]
      (h : (if p then .ok () else .error (.unexpected "http client build failed: builder error" id)) =
        (.error e : Except AccessError Unit)) : e.kind = .unexpected := by
    split at h
    case isTrue => contradiction
    case isFalse => exact Except.error.inj h ▸ rfl
  have hk : e.kind = .config ∨ e.kind = .unexpected := by
    unfold checkSender at h
    split at h
    case h_1 path _ _ =>
      cases hr : readAuthorities file path id <;> rw [hr] at h
      case error => exact .inl <| Except.error.inj h ▸ readAuthorities_kind hr
      case ok => exact .inr <| hu h
    case h_2 => exact .inr <| hu h
  rcases hk with hk | hk <;> simp [hk]

theorem Transport.send_unsettled (service : Service σ) (s : σ)
    (h : checkSender file a.config a.call.requestId = .error e) :
    let o := (https file service).send a s
    o.value = .error e ∧ deeds o.effects = [] ∧ o.state = s := by
  rw [https_send, h]
  cases a.config.validateSsl <;> exact ⟨rfl, rfl, rfl⟩

-- A trust setting that is of no use is not replaced by another: the attempt is over, and nothing was sent.
theorem Client.perform_unsettled (h : checkSender file config call.requestId = .error e)
    (ha : attempts (perform ⟨config, .https file service⟩ call op s).effects ≠ []) :
    let o := perform ⟨config, .https file service⟩ call op s
    o.value.Reports e.result e.message ∧ (∃ a, deeds o.effects = [.attempted a]) ∧ o.state = s := by
  obtain ⟨a, rest, hl⟩ := List.exists_cons_of_ne_nil ha
  have hh := congrArg List.head? hl
  have ⟨_, _, _, hc⟩ := perform_head hh
  have hs : checkSender file a.config a.call.requestId = .error e := hc ▸ h
  have ⟨hv, hd, ht⟩ := Transport.send_unsettled service s hs
  have ⟨hr, he, hst⟩ := perform_first_failed hh hv (checkSender_final h)
  exact ⟨hr, ⟨a, he.trans (congrArg _ hd)⟩, hst.trans ht⟩

-- The same, with other authorities named.
def Config.trusting (c : Config) (bundle : Option String) : Config :=
  { c with caBundlePath := bundle }

def Effect.trusting (bundle : Option String) : Effect → Effect
  | .attempted a => .attempted { a with config := a.config.trusting bundle }
  | e => e

theorem Effect.map_trusting {bundle : Option String} {es : List Effect} (h : attempts es = []) :
    es.map (.trusting bundle) = es := by
  induction es
  case nil => rfl
  case cons e es hi =>
    cases e
    case attempted => contradiction
    all_goals exact congrArg _ (hi h)

-- The first run is the second but for the authorities that its attempts name.
def Run.Trusting (bundle : Option String) (r' r : Run σ α) : Prop :=
  ∀ s, r' s = ⟨(r s).value, (r s).effects.map (.trusting bundle), (r s).state⟩

variable {bundle : Option String}

namespace Run.Trusting

variable {α β : Type}

theorem of_passive {r : Run σ α} (h : r.Passive) : Run.Trusting bundle r r := by
  intro s
  rw [map_trusting (h.attempts s)]

theorem bind {r' r : Run σ α} {k' k : α → Run σ β} (hr : Run.Trusting bundle r' r)
    (hk : ∀ x, Run.Trusting bundle (k' x) (k x)) : Run.Trusting bundle (r' >>= k') (r >>= k) := by
  intro s
  simp only [bind_apply, hr s, hk _ _, List.map_append]

theorem ite {p : Prop} [Decidable p] {r₁' r₂' r₁ r₂ : Run σ α} (h₁ : Run.Trusting bundle r₁' r₁)
    (h₂ : Run.Trusting bundle r₂' r₂) : Run.Trusting bundle (if p then r₁' else r₂') (if p then r₁ else r₂) := by
  split
  case isTrue => exact h₁
  case isFalse => exact h₂

end Run.Trusting

-- The policy by induction on the attempts that are left.
theorem RetryPolicy.runFrom_trusting {α : Type} (p : RetryPolicy) (config : Config) (call : Call)
    {attempt' attempt : Nat → Run σ (Except AccessError α)}
    (h : ∀ n, Run.Trusting bundle (attempt' n) (attempt n)) (left n : Nat) :
    Run.Trusting bundle (p.runFrom (config.trusting bundle) call attempt' left n)
      (p.runFrom config call attempt left n) := by
  have hp (n : Nat) : (p.pauseBefore config call n : Run σ Unit).Passive :=
    { attempts := fun s => by rw [← attempts_deeds, deeds_pauseBefore]; split <;> rfl }
  have hf (n : Nat) (r : Except AccessError α) : (p.failureRecord config call n r : Run σ Unit).Passive :=
    .of_deeds fun s => p.deeds_failureRecord config call s n r
  induction left generalizing n
  case zero => exact .of_passive (.pure _)
  case succ left hi =>
    rw [runFrom_succ, runFrom_succ]
    refine .bind (.of_passive (hp n)) fun _ => .bind (h n) fun r => .bind (.of_passive (hf n r)) fun _ => ?_
    exact .ite (hi (n + 1)) (.of_passive (.pure r))

namespace Transport

-- What is left of an attempt does not look at the authorities.
theorem dispatch_trusting (service : Service σ) (a : Attempt) :
    dispatch service { a with config := a.config.trusting bundle } = dispatch service a := by
  have hl : (a.config.trusting bundle).log (σ := σ) = a.config.log := rfl
  have hu : Attempt.url { a with config := a.config.trusting bundle } = a.url := rfl
  have hk : (a.config.trusting bundle).apiToken = a.config.apiToken := rfl
  have ht : (a.config.trusting bundle).timeout = a.config.timeout := rfl
  have hd : deliver service { a with config := a.config.trusting bundle } = deliver service a := rfl
  unfold dispatch
  rw [hl, hu, hk, ht, hd]

theorem send_trusting (hv : a.config.validateSsl = false) (file file' : Volume.Reader) :
    (https file' service).send { a with config := a.config.trusting bundle } = (https file service).send a := by
  have hc : checkSender file' (a.config.trusting bundle) a.call.requestId =
      checkSender file a.config a.call.requestId := by
    unfold checkSender Config.trusting
    rw [hv]
  have hw : Attempt.tlsWarning { a with config := a.config.trusting bundle } = a.tlsWarning := rfl
  have hs : Attempt.cleartextWarning { a with config := a.config.trusting bundle } = a.cleartextWarning := rfl
  have hi : (a.config.trusting bundle).isCleartext = a.config.isCleartext := rfl
  have hb : (a.config.trusting bundle).validateSsl = a.config.validateSsl := rfl
  simp only [https_send, hc, dispatch_trusting, hw, hs, hi, hb]

end Transport

namespace Client

open RetryPolicy

variable (file bundle) (file' : Volume.Reader)

theorem attempting_trusting (hq : service.Quiet) (hv : a.config.validateSsl = false) (n : Nat) :
    Run.Trusting bundle
      (attempting ⟨config.trusting bundle, .https file' service⟩
        { a with config := a.config.trusting bundle } n)
      (attempting ⟨config, .https file service⟩ a n) := by
  refine .bind (fun _ => rfl) fun _ => ?_
  rw [Transport.send_trusting hv file file']
  exact .of_passive <| Transport.https_passive hq a

theorem execute_trusting (hq : service.Quiet) (hv : config.validateSsl = false) (endpoint : Endpoint)
    (payload : Json) :
    Run.Trusting bundle (execute ⟨config.trusting bundle, .https file' service⟩ call endpoint payload)
      (execute ⟨config, .https file service⟩ call endpoint payload) := by
  let attempt := attemptOf ⟨config, .https file service⟩ call endpoint payload
  have ha (n : Nat) : Run.Trusting bundle
      (attempting ⟨config.trusting bundle, .https file' service⟩
        { attempt with config := attempt.config.trusting bundle } n)
      (attempting ⟨config, .https file service⟩ attempt n) :=
    attempting_trusting file bundle file' hq hv n
  have hp : ofConfig (config.trusting bundle) = ofConfig config := rfl
  have he (client : Client σ) : client.execute call endpoint payload =
      (ofConfig client.config).run client.config call
        (client.attempting (client.attemptOf call endpoint payload)) := rfl
  rw [he, he, run, run, hp]
  exact (ofConfig config).runFrom_trusting config call ha _ _

theorem inquire_trusting (hq : service.Quiet) (hv : config.validateSsl = false) (q : Inquiry) :
    Run.Trusting bundle (inquire ⟨config.trusting bundle, .https file' service⟩ call q)
      (inquire ⟨config, .https file service⟩ call q) := by
  unfold inquire request
  cases q.checks
  case error e => exact .of_passive (.pure _)
  case ok =>
    refine .bind (execute_trusting file bundle file' hq hv q.endpoint q.payload) fun r => ?_
    cases r <;> exact .of_passive (.pure _)

theorem inquiry?_trusting :
    inquiry? ⟨config.trusting bundle, .https file' service⟩ call op =
      inquiry? ⟨config, .https file service⟩ call op := by
  cases op <;> rfl

theorem answerOn_trusting (r : Except AccessError Response) :
    answerOn ⟨config.trusting bundle, .https file' service⟩ call r op =
      answerOn ⟨config, .https file service⟩ call r op := by
  cases op <;> rfl

theorem perform_trusting (hq : service.Quiet) (hv : config.validateSsl = false) (op : Operation) :
    Run.Trusting bundle (perform ⟨config.trusting bundle, .https file' service⟩ call op)
      (perform ⟨config, .https file service⟩ call op) := by
  have hc (events : List Log.Event) : (config.trusting bundle).recordedAll events = config.recordedAll events := rfl
  have hr (events : List Log.Event) :
      (config.recordedAll events).map (.trusting bundle) = config.recordedAll events :=
    map_trusting <| config.attempts_recordedAll events
  intro s
  cases h : inquiry? ⟨config, .https file service⟩ call op
  case none =>
    have h' := (inquiry?_trusting file bundle file').trans h
    rw [perform_uninquired h (.error default), perform_uninquired h' (.error default), answerOn_trusting file, hc, hr]
  case some q =>
    have h' := (inquiry?_trusting file bundle file').trans h
    rw [perform_course h, perform_course h', inquire_trusting file bundle file' hq hv q s]
    simp only [List.map_append, answerOn_trusting file, hc, hr]

end Client
end AccessControl
