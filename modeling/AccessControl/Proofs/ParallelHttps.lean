import AccessControl.Proofs.Parallel
import AccessControl.Transport.Https

namespace AccessControl

namespace Renaming

variable (ρ : Renaming)

@[simp]
theorem error_ofTransport (failure : TransportFailure) (timeout : Nat) (id : RequestId) :
    ρ.error (.ofTransport failure timeout id) = .ofTransport failure timeout (ρ.ids id) := by
  cases failure <;> rfl

end Renaming

variable {C : Comparison} {σ α : Type}

theorem Run.Parallels.fail (f : TransportFailure) (timeout : Nat) (id : RequestId) :
    Run.Parallels C C.ρ.outcome
      (Pure.pure (.error (.ofTransport f timeout (C.ρ.ids id))) : Run σ (Except AccessError α))
      (Pure.pure (.error (.ofTransport f timeout id))) :=
  .pure <| congrArg Except.error (C.ρ.error_ofTransport f timeout id).symm

variable {ρ : Renaming}

theorem readAuthorities_ids (file : Volume.Reader) (path : String) (id : RequestId) :
    readAuthorities file path (ρ.ids id) = ρ.outcome (readAuthorities file path id) := by
  unfold readAuthorities
  cases file path
  case error e => rfl
  case ok pem =>
    dsimp only
    cases Pem.certificates? pem <;> rfl

theorem checkSender_ids (file : Volume.Reader) (c : Config) (id : RequestId) :
    checkSender file c (ρ.ids id) = ρ.outcome (checkSender file c id) := by
  have hw (authorities : List Bytes) :
      (if Http.isHeaderText c.userAgent && authorities.all Certificate.isWellFormed then .ok ()
        else .error (.unexpected "http client build failed: builder error" (ρ.ids id))) =
      ρ.outcome (if Http.isHeaderText c.userAgent && authorities.all Certificate.isWellFormed then .ok ()
        else .error (.unexpected "http client build failed: builder error" id)) := by
    split <;> rfl
  unfold checkSender
  cases c.validateSsl <;> cases c.caBundlePath
  case true.some path =>
    simp only [Renaming.outcome_bind, readAuthorities_ids, hw]
  all_goals exact hw []

-- Of the files, a sender's check sees the one with the authorities.
theorem checkSender_congr {file₁ file₂ : Volume.Reader} {c : Config}
    (h : ∀ path, c.caBundlePath = some path → file₁ path = file₂ path) (id : RequestId) :
    checkSender file₁ c id = checkSender file₂ c id := by
  unfold checkSender
  cases hp : c.caBundlePath
  case none => cases c.validateSsl <;> rfl
  case some path =>
    have hr : readAuthorities file₁ path id = readAuthorities file₂ path id := by
      rw [readAuthorities, readAuthorities, h path hp]
    cases c.validateSsl
    case true => simp only [hr]
    case false => rfl

theorem readResponse_parallels (a : Attempt) (r : Http.Response) :
    Run.Parallels C C.ρ.outcome (readResponse ((C.ρ.attempt a).on C.left) r : Run σ _)
      (readResponse (a.on C.right) r) := by
  unfold readResponse
  cases r.read maxResponseBytes
  case error e => exact .fail ..
  case ok body =>
    refine .log_bind <| .ite (.pure rfl) (.pure ?_)
    cases Json.read body <;> rfl

-- The services go along in whatever they are sent for an attempt.
def Comparison.Serves (C : Comparison) (a : Attempt) (service₁ service₂ : Service σ) : Prop :=
  ∀ url, Http.Url.read? a.url = some url →
    Run.Parallels C id (service₁.deliver url (((C.ρ.attempt a).on C.left).request url))
      (service₂.deliver url ((a.on C.right).request url))

variable {service₁ service₂ : Service σ} {a : Attempt}

theorem deliver_parallels {url : Http.Url} (h : C.Serves a service₁ service₂)
    (hu : Http.Url.read? a.url = some url) :
    Run.Parallels C C.ρ.outcome (deliver service₁ ((C.ρ.attempt a).on C.left) url)
      (deliver service₂ (a.on C.right) url) := by
  refine .bind (h url hu) fun d => ?_
  cases d
  case response r => exact readResponse_parallels a r
  all_goals exact .fail ..

variable {file₁ file₂ : Volume.Reader}

theorem Transport.send_parallels
    (hf : ∀ path, a.config.caBundlePath = some path → file₁ path = file₂ path)
    (ht : Http.isHeaderText C.left.token = Http.isHeaderText C.right.token)
    (hs : C.Serves a service₁ service₂) :
    Run.Parallels C C.ρ.outcome ((https file₁ service₁).send ((C.ρ.attempt a).on C.left))
      ((https file₂ service₂).send (a.on C.right)) := by
  have hc : checkSender file₁ ((C.ρ.attempt a).on C.left).config ((C.ρ.attempt a).on C.left).call.requestId =
      C.ρ.outcome (checkSender file₂ (a.on C.right).config (a.on C.right).call.requestId) :=
    (checkSender_ids file₁ a.config a.call.requestId).trans <| congrArg _ (checkSender_congr hf _)
  have hu : ((C.ρ.attempt a).on C.left).url = a.url := rfl
  have hv : (a.on C.right).url = a.url := rfl
  have hk : Http.isHeaderText ((C.ρ.attempt a).on C.left).config.apiToken =
      Http.isHeaderText (a.on C.right).config.apiToken := ht
  refine .warned ?_
  rw [hc]
  cases checkSender file₂ (a.on C.right).config (a.on C.right).call.requestId
  case error e => exact .pure rfl
  case ok =>
    refine .warned <| .log_bind ?_
    rw [hu, hv, hk]
    cases hr : Http.Url.read? a.url <;> cases Http.isHeaderText (a.on C.right).config.apiToken
    case some.true url => exact .ite (.fail ..) (.ite (.fail ..) (deliver_parallels hs hr))
    all_goals exact .fail ..

end AccessControl
