import AccessControl.Proofs.Dispatch

namespace AccessControl

open Effect

-- What an attempt and the effects that follow it are to show.
structure Heralded (file : Volume.Reader) (a : Attempt) (es : List Effect) : Prop where
  unverified : warnings "tls_verification_disabled" es = if a.config.validateSsl then [] else [a.tlsWarning]
  encrypted : "https://".toList <+: a.url.toList → warnings "cleartext_transport" es = []
  cleartext : "http://".toList <+: a.url.toList →
    ∀ before arrival after, es = before ++ .arrived arrival :: after →
      warnings "cleartext_transport" before = [a.cleartextWarning] ∧ warnings "cleartext_transport" after = []
  -- whatever comes of the request, and be it that it is refused
  reached : "http://".toList <+: a.url.toList → ∀ url, a.Reaches file url →
    warnings "cleartext_transport" es = [a.cleartextWarning]

namespace Heralded

variable {σ : Type} {file : Volume.Reader} {service : Service σ} {a : Attempt} {es fs : List Effect}

theorem append_calm (h : Heralded file a es) (hc : ∀ e ∈ fs, e.IsCalm) : Heralded file a (es ++ fs) := by
  have hw (name : String) : warnings name (es ++ fs) = warnings name es := by
    rw [warnings_append, warnings_of_calm hc, List.append_nil]
  exact
    { unverified := (hw _).trans h.unverified
      encrypted := fun hu => (hw _).trans <| h.encrypted hu
      cleartext := fun hu before arrival after he => by
        have ⟨between, hb, ha⟩ := split_before (fun hm => hc _ hm) he
        have ⟨h₁, h₂⟩ := h.cleartext hu before arrival between hb
        exact ⟨h₁, by rw [ha, warnings_append, h₂, warnings_of_calm hc, List.append_nil]⟩
      reached := fun hu url hr => (hw _).trans <| h.reached hu url hr }

-- The two warnings that an attempt may begin with.
variable (a) in
theorem warnings_first :
    let first : List Effect := if a.config.validateSsl then [] else [.logged a.tlsWarning]
    warnings "tls_verification_disabled" first = (if a.config.validateSsl then [] else [a.tlsWarning]) ∧
      warnings "cleartext_transport" first = [] ∧ ∀ arrival, .arrived arrival ∉ first := by
  cases a.config.validateSsl <;> simp [warnings, records, record?, Attempt.tlsWarning, Call.event]

variable (a) in
theorem warnings_second :
    let second : List Effect := if a.config.isCleartext then [.logged a.cleartextWarning] else []
    warnings "cleartext_transport" second = (if a.config.isCleartext then [a.cleartextWarning] else []) ∧
      warnings "tls_verification_disabled" second = [] ∧ ∀ arrival, .arrived arrival ∉ second := by
  cases a.config.isCleartext <;> simp [warnings, records, record?, Attempt.cleartextWarning, Call.event]

theorem send (hq : service.Quiet) (file : Volume.Reader) (a : Attempt) (s : σ) :
    Heralded file a ((Transport.https file service).send a s).effects := by
  have ⟨hf, hfc, hfa⟩ := warnings_first a
  have ⟨hs, hst, hsa⟩ := warnings_second a
  have hd := (Transport.dispatch_plain hq a).effects s
  have hu (s : Scheme) : s.mark <+: a.url.toList ↔ a.config.scheme = s := Config.mark_isPrefix_url
  rw [Transport.send_effects]
  generalize (if a.config.validateSsl then [] else [Effect.logged a.tlsWarning]) = first at hf hfc hfa ⊢
  cases hc : checkSender file a.config a.call.requestId
  case error e =>
    rw [List.append_nil]
    exact
      { unverified := hf
        encrypted := fun _ => hfc
        cleartext := fun _ before arrival after he => absurd (he ▸ by simp) (hfa arrival)
        reached := fun _ url hr => by
          have := hr.sender
          rw [hc] at this
          contradiction }
  case ok =>
    generalize (if a.config.isCleartext then [Effect.logged a.cleartextWarning] else []) = second at hs hst hsa ⊢
    generalize (Transport.dispatch service a s).effects = rest at hd
    have hw : warnings "cleartext_transport" (first ++ (second ++ rest)) =
        if a.config.isCleartext then [a.cleartextWarning] else [] := by
      rw [warnings_append, warnings_append, hfc, hs, warnings_of_plain hd, List.append_nil, List.nil_append]
    exact
      { unverified := by
          rw [warnings_append, warnings_append, hf, hst, warnings_of_plain hd, List.append_nil, List.append_nil]
        encrypted := fun h => by
          rw [hw, Config.scheme_eq_https_iff.mp <| (hu .https).mp h]
          rfl
        cleartext := fun h before arrival after he => by
          have ⟨between, hb, he⟩ := split_behind (hfa arrival) he
          have ⟨early, hb', he⟩ := split_behind (hsa arrival) he
          have ⟨hp, hl⟩ := List.forall_mem_append.mp (he ▸ hd)
          have hl := (List.forall_mem_cons.mp hl).right
          rw [hb, hb', warnings_append, warnings_append, hfc, hs, warnings_of_plain hp, warnings_of_plain hl,
            Config.isCleartext_iff.mpr <| (hu .http).mp h]
          exact ⟨rfl, rfl⟩
        reached := fun h url _ => by
          rw [hw, Config.isCleartext_iff.mpr <| (hu .http).mp h]
          rfl }

end Heralded

namespace Client

open RetryPolicy

variable {σ : Type} {config : Config} {call : Call} {file : Volume.Reader} {service : Service σ} {a : Attempt}
  {op : Operation} {s : σ}

-- The step: an attempt stands with its own warnings, and the pause before it goes to the one before.
theorem round_divided (hq : service.Quiet) (p : RetryPolicy) (a : Attempt) (s : σ) (n : Nat) :
    Divided (Heralded file) <|
      p.round config call (attempting ⟨config, .https file service⟩ a) s n := by
  refine .append (fun _ _ _ => .append_calm) (.append (fun _ _ _ => .append_calm) ?_ ?_) ?_
  · exact .of_calm <| p.pauseBefore_calm config call _ n
  · exact .attempted ((Transport.https_passive hq a).attempts _) (.send hq file a _)
  · exact .of_calm <| p.failureRecord_calm config call _ n _

theorem trace_divided (hq : service.Quiet) (p : RetryPolicy) (a : Attempt) (s : σ) (n : Nat) :
    Divided (Heralded file) <|
      p.trace config call (attempting ⟨config, .https file service⟩ a) s n := by
  induction n
  case zero => exact .of_calm nofun
  case succ n hi => exact .append (fun _ _ _ => .append_calm) hi <| round_divided hq p a s (n + 1)

theorem inquire_divided (hq : service.Quiet) (q : Inquiry) (s : σ) :
    Divided (Heralded file) (inquire ⟨config, .https file service⟩ call q s).effects := by
  unfold inquire
  cases q.checks
  case error e => exact .of_calm nofun
  case ok =>
    have ⟨n, _, he⟩ := execute_eq_made ⟨config, .https file service⟩ call q.endpoint q.payload s
    rw [request_passed, he]
    exact trace_divided hq _ _ s n

theorem perform_divided (hq : service.Quiet) (op : Operation) (s : σ) :
    Divided (Heralded file) (perform ⟨config, .https file service⟩ call op s).effects := by
  have ho : Divided (Heralded file) (config.recordedAll (opening call op)) :=
    .of_calm <| config.recordedAll_calm <| opening_calm call op
  cases h : inquiry? ⟨config, .https file service⟩ call op
  case none =>
    rw [perform_uninquired h (.error default)]
    exact ho
  case some q =>
    rw [perform_course h]
    refine .append (fun _ _ _ => .append_calm) ho <| .append (fun _ _ _ => .append_calm) (inquire_divided hq q s) ?_
    exact .of_calm <| config.recordedAll_calm <| closing_calm call _ op

-- Within its own part of the effects, every attempt warns of what is so, and of nothing else.
theorem perform_heralded (hq : service.Quiet) (config : Config) (file : Volume.Reader) (call : Call)
    (op : Operation) (s : σ) :
    let o := perform ⟨config, .https file service⟩ call op s
    ((∀ e ∈ (parts o.effects).1, e.IsCalm) ∧
      ∀ part ∈ (parts o.effects).2, part.1.config = config ∧ Heralded file part.1 part.2) ∧
    (∀ (path : String) (e : FileError), config.validateSsl = true → config.caBundlePath = some path →
      file path = .error e → attempts o.effects ≠ [] →
        o.value.Reports .configError ("failed to read CA bundle " ++ path ++ ": " ++ e.message) ∧
          (∃ a, deeds o.effects = [.attempted a]) ∧ o.state = s) ∧
    (config.validateSsl = false → ∀ (bundle : Option String) (file' : Volume.Reader),
      perform ⟨config.trusting bundle, .https file' service⟩ call op s =
        ⟨o.value, o.effects.map (.trusting bundle), o.state⟩) := by
  intro o
  have hd : Divided (Heralded file) o.effects := perform_divided hq op s
  refine ⟨⟨hd.front, fun part hp => ⟨?own, hd.each part hp⟩⟩, ?unreadable, ?unverified⟩
  case own =>
    have hm : part.1 ∈ attempts o.effects := map_fst_parts o.effects ▸ List.mem_map_of_mem hp
    have ⟨_, _, _, ha⟩ := mem_attempts_perform (Transport.https_passive hq) hm
    exact ha ▸ rfl
  case unreadable =>
    intro path e hv hp hf ha
    exact perform_unsettled (checkSender_unreadable hv hp hf call.requestId) ha
  case unverified => exact fun hv bundle file' => perform_trusting file bundle file' hq hv op s

-- Two attempts without verification, each with its own two warnings; and one that has nobody to trust.
theorem perform_heralded_twice :
    let file : Volume.Reader := fun _ => .error .notFound
    let config : Config :=
      { apiUrl := "HTTP://127.0.0.1:18080", apiToken := "token", retryCount := 1, caBundlePath := some "ca.pem" }
    let call : Call := ⟨⟨"r"⟩, 0⟩
    let run (validateSsl : Bool) :=
      perform ⟨{ config with validateSsl }, .https file Tape.service⟩ call (.check "alice" "door" "open")
        { deliveries := [.failed] }
    Tape.service.Quiet ∧
      ((parts (run false).effects).2.length = 2 ∧ ∀ part ∈ (parts (run false).effects).2,
        warnings "tls_verification_disabled" part.2 = [part.1.tlsWarning] ∧
          ∀ before arrival after, part.2 = before ++ .arrived arrival :: after →
            warnings "cleartext_transport" before = [part.1.cleartextWarning]) ∧
      (run true).value = .result .configError ∧ (attempts (run true).effects).length = 1 := by
  intro file config call run
  have hq := Tape.service_quiet
  have hc (validateSsl : Bool) : ({ config with validateSsl } : Config).scheme = .http := by
    cases validateSsl <;> decide +kernel
  refine ⟨hq, ⟨by decide +kernel, fun part hp => ?_⟩, ?_⟩
  · have ⟨⟨_, hp'⟩, _⟩ := perform_heralded hq { config with validateSsl := false } file call
      (.check "alice" "door" "open") { deliveries := [.failed] }
    have ⟨ha, hh⟩ := hp' part hp
    have hu : "http://".toList <+: part.1.url.toList :=
      Config.mark_isPrefix_url (s := .http).mpr <| ha ▸ hc false
    exact ⟨by rw [hh.unverified, ha]; rfl, fun _ _ _ he => (hh.cleartext hu _ _ _ he).left⟩
  · have ⟨_, hu, _⟩ := perform_heralded hq { config with validateSsl := true } file call
      (.check "alice" "door" "open") { deliveries := [.failed] }
    have ⟨hr, ⟨a, hd⟩, _⟩ := hu "ca.pem" .notFound rfl rfl rfl (by decide +kernel)
    exact ⟨congrArg Answer.result hr, by rw [← attempts_deeds, hd]; rfl⟩

end Client
end AccessControl
