import AccessControl.Config.Display
import AccessControl.Proofs.ExitStatus
import AccessControl.Proofs.Volume
import AccessControl.Proofs.Vouching

namespace AccessControl

variable {t₁ t₂ : String} {σ : Type}

theorem Renaming.policy_refl (c : Host.PolicyCheck) : refl.policy c = c := by
  rw [policy, map_decision_refl]

namespace CommandLine

theorem evaluateAssets_parallels {C : Comparison} {c : Config} {call : Call} {transport₁ transport₂ : Transport σ}
    (ht : C.Joins c call transport₁ transport₂) (principal : String) (assets : List String)
    (action : String) :
    Run.Parallels C (List.map C.ρ.decision)
      (evaluateAssets (C.left.client c transport₁) (C.ρ.call call) principal assets action)
      (evaluateAssets (C.right.client c transport₂) call principal assets action) := by
  rcases assets with _ | ⟨asset, _ | ⟨asset', assets⟩⟩ <;> simp only [evaluateAssets]
  · exact Client.evaluateBatch_parallels principal ht _
  · exact (Client.evaluate_parallels principal ht asset action).map fun _ => rfl
  · exact Client.evaluateBatch_parallels principal ht _

-- Two command lines of the same words, each with its own configuration and its own transport.
theorem Invocation.run_parallels {h : t₁.isEmpty = t₂.isEmpty} (i : Invocation) {c : Config} {call : Call}
    (s₁ s₂ : Surroundings σ) (hd₁ : s₁.draw = call) (hd₂ : s₂.draw = call)
    (l₁ : s₁.Loads i.configPath (c.withToken t₁)) (l₂ : s₂.Loads i.configPath (c.withToken t₂))
    (ht : (Comparison.apart h c).Joins c call s₁.transport s₂.transport) :
    Run.Parallels (.apart h c) id (i.run s₁) (i.run s₂) := by
  unfold run
  cases i.command
  case check user command =>
    simp only [l₁.withAdapter_eq, l₂.withAdapter_eq, hd₁, hd₂]
    refine .bind (Host.Adapter.checkPolicy_parallels ht l₁.adapter.configured l₂.adapter.configured
      command user) fun check => .pure ?_
    exact congrArg (fun check : Host.PolicyCheck =>
      ({ status := check.verdict.exitStatus, output := [check.toJson.pretty] } : Completion))
        (Renaming.policy_refl check)
  case evaluate principal assets action =>
    simp only [l₁.withClient_eq, l₂.withClient_eq, hd₁, hd₂]
    refine .bind (evaluateAssets_parallels ht principal assets action) fun decisions => .pure ?_
    exact congrArg (fun decisions : List Decision =>
      ({ status := (combinedResult decisions).verdict.exitStatus
         output := [(decisionsJson decisions).pretty] } : Completion))
        (Renaming.map_decision_refl decisions)
  case search principal action token size =>
    simp only [l₁.withClient_eq, l₂.withClient_eq, hd₁, hd₂]
    exact .bind (Client.searchWith_parallels principal ht action _) fun _ => .pure rfl
  case list user command =>
    simp only [l₁.withAdapter_eq, l₂.withAdapter_eq, hd₁, hd₂]
    exact .bind (Host.Adapter.list_parallels ht l₁.adapter.configured l₂.adapter.configured command user)
      fun _ => .pure rfl
  case validate =>
    have h₁ : (c.withToken t₁).isValid = true := l₁.adapter.configured
    have h₂ : (c.withToken t₂).isValid = true := l₂.adapter.configured
    simp only [l₁.load_eq, l₂.load_eq, pure_bind, Client.validate, h₁, h₂]
    exact .pure rfl
  case version verbose =>
    cases verbose
    case false => exact .pure rfl
    case true =>
      simp only [l₁.withAdapter_eq, l₂.withAdapter_eq]
      exact .pure rfl

-- The resolver that a command line starts with, told by the environment alone.
def resolverOf (environment : Environment) (configPath : Option String) : Resolver :=
  match configPath with
  | some path => (Resolver.ofEnvironment environment).withPath path
  | none => .ofEnvironment environment

theorem Surroundings.resolver_eq (s : Surroundings σ) (configPath : Option String) :
    s.resolver configPath = resolverOf s.environment configPath := by
  cases configPath <;> rfl

theorem logText_apart {c : Config} {es₁ es₂ : List Effect} (h : Effects.Apart c t₁ t₂ es₁ es₂) :
    logText es₁ = logText es₂ :=
  congrArg Log.lines h.records_eq

end CommandLine

open CommandLine (Invocation Report resolverOf)

-- What the operations of a program are: of the client, of the host's adapter, and whole command lines.
-- The first two are given their configuration; a command line finds it, among its files.
inductive Task
  | client (config : Config) (file : Volume.Reader) (op : Operation)
  | host (config : Config) (file : Volume.Reader) (op : HostOperation)
  | command (environment : Environment) (files : Volume) (i : Invocation)

inductive Product
  | answer (a : Answer)
  | refused (e : Host.AdapterError)
  -- A report, with the files as they were before.
  | report (before : Volume) (r : Report)

namespace Task

def run (service : Service σ) (call : Call) : Task → Run σ Product
  | client config file op => (Client.perform ⟨config, .https file service⟩ call op).map .answer
  | host config file op =>
    match Host.Adapter.ofClient ⟨config, .https file service⟩ with
    | .ok adapter => (adapter.perform call op).map .answer
    | .error e => pure (.refused e)
  | command environment files i =>
    (i.report environment files (fun file => .https file service) call call.time).map (.report files)

-- Tasks in order, each as a call of its own.
def runAll (service : Service σ) (calls : Nat → Call) : (n : Nat) → List Task → Run σ (List Product)
  | _, [] => pure []
  | n, task :: tasks => do
    let product ← task.run service (calls n)
    let products ← runAll service calls (n + 1) tasks
    return product :: products

-- The same task on two sides, under one configuration but for the token. A command line finds the token
-- where it finds the rest of the configuration: in the environment, or in a file, which may then be another
-- one on each side. The authorities to be trusted are the same.
inductive Apart (c : Config) (t₁ t₂ : String) : Task → Task → Prop
  | client (file : Volume.Reader) (op : Operation) :
    Apart c t₁ t₂ (client (c.withToken t₁) file op) (client (c.withToken t₂) file op)
  | host (file : Volume.Reader) (op : HostOperation) :
    Apart c t₁ t₂ (host (c.withToken t₁) file op) (host (c.withToken t₂) file op)
  | command {i : Invocation} {environment₁ environment₂ : Environment} {files₁ files₂ : Volume}
      {place : Place} {begin₁ begin₂ : Bytes} (files : files₁.Apart place begin₁ begin₂ files₂)
      (loads₁ : ∀ logged, i.opened files₁ = .ok logged →
        (resolverOf environment₁ i.configPath).readConfig logged.read = .ok (c.withToken t₁))
      (loads₂ : ∀ logged, i.opened files₂ = .ok logged →
        (resolverOf environment₂ i.configPath).readConfig logged.read = .ok (c.withToken t₂))
      (authorities : ∀ logged₁ logged₂, i.opened files₁ = .ok logged₁ → i.opened files₂ = .ok logged₂ →
        ∀ path, c.caBundlePath = some path → logged₁.read path = logged₂.read path) :
    Apart c t₁ t₂ (command environment₁ files₁ i) (command environment₂ files₂ i)

end Task

-- Nothing tells the products apart. Of two reports, the exit status and what is printed are the same, and
-- so are the files, the log among them, but for the file that was another one before.
inductive Product.Alike : Product → Product → Prop
  | answer (a : Answer) : Alike (.answer a) (.answer a)
  | refused (e : Host.AdapterError) : Alike (.refused e) (.refused e)
  | report {before₁ before₂ : Volume} {r₁ r₂ : Report} (status : r₁.status = r₂.status)
      (output : r₁.output = r₂.output) (errors : r₁.errors = r₂.errors)
      (files : ∀ place begin₁ begin₂, before₁.Apart place begin₁ begin₂ before₂ →
        r₁.files.Apart place begin₁ begin₂ r₂.files) :
    Alike (.report before₁ r₁) (.report before₂ r₂)

theorem Product.Alike.of_completion {before₁ before₂ after₁ after₂ : Volume}
    {completion₁ completion₂ : CommandLine.Completion} {errors₁ errors₂ : String}
    (hc : completion₁ = completion₂) (he : errors₁ = errors₂)
    (hf : ∀ place begin₁ begin₂, before₁.Apart place begin₁ begin₂ before₂ →
      after₁.Apart place begin₁ begin₂ after₂) :
    Alike (.report before₁ (.ofCompletion completion₁ errors₁ after₁))
      (.report before₂ (.ofCompletion completion₂ errors₂ after₂)) := by
  subst hc he
  exact .report rfl rfl rfl hf

-- Two outcomes that differ in the token: they are the same but for the requests, and those but for the
-- header that vouches for the sender.
structure Outcome.Apart (c : Config) (t₁ t₂ : String) (R : α → α → Prop) (o₁ o₂ : Outcome σ α) : Prop where
  value : R o₁.value o₂.value
  effects : Effects.Apart c t₁ t₂ o₁.effects o₂.effects
  state : o₁.state = o₂.state

theorem Host.Adapter.ofClient_error {client : Client σ} {e : ConfigError}
    (h : client.config.validate = .error e) : ofClient client = .error (.invalidConfig e) := by
  unfold ofClient
  split
  case h_1 hv =>
    rw [h] at hv
    contradiction
  case h_2 e' he =>
    rw [h] at he
    cases he
    rfl

variable {service : Service σ}

theorem Run.Parallels.answer_apart {h : t₁.isEmpty = t₂.isEmpty} {c : Config} {r₁ r₂ : Run σ Answer}
    (hr : Run.Parallels (.apart h c) Renaming.refl.answer r₁ r₂) (s : σ) :
    (r₁.map .answer s).Apart c t₁ t₂ Product.Alike (r₂.map .answer s) where
  value := by
    have hv : (r₁ s).value = (r₂ s).value := (hr.value s).trans (congrFun Renaming.answer_refl _)
    rw [map_value, map_value, hv]
    exact .answer (r₂ s).value
  effects := hr.effects s
  state := hr.state s

section

variable (hs : service.IgnoresSender) (h₁ : IsToken t₁) (h₂ : IsToken t₂) (c : Config) (call : Call) (s : σ)

include hs h₁ h₂

theorem Task.client_apart (file : Volume.Reader) (op : Operation) :
    ((client (c.withToken t₁) file op).run service call s).Apart c t₁ t₂ Product.Alike
      ((client (c.withToken t₂) file op).run service call s) := by
  have ht := hs.joins h₁ h₂ call (fun path (_ : c.caBundlePath = some path) => Eq.refl (file path))
  exact (Client.perform_parallels ht op).answer_apart s

theorem Task.host_apart (file : Volume.Reader) (op : HostOperation) :
    ((host (c.withToken t₁) file op).run service call s).Apart c t₁ t₂ Product.Alike
      ((host (c.withToken t₂) file op).run service call s) := by
  have ht := hs.joins h₁ h₂ call (fun path (_ : c.caBundlePath = some path) => Eq.refl (file path))
  have hv : (c.withToken t₁).validate = (c.withToken t₂).validate :=
    (Comparison.apart (h₁.isEmpty_eq h₂) c).validate_on c
  cases hc : (c.withToken t₂).validate <;> rw [hc] at hv
  case error e =>
    have hl : Host.Adapter.ofClient (σ := σ) ⟨c.withToken t₁, .https file service⟩ = .error (.invalidConfig e) :=
      Host.Adapter.ofClient_error hv
    have hr : Host.Adapter.ofClient (σ := σ) ⟨c.withToken t₂, .https file service⟩ = .error (.invalidConfig e) :=
      Host.Adapter.ofClient_error hc
    simp only [run, hl, hr]
    exact { value := .refused _, effects := .nil, state := rfl }
  case ok =>
    let adapter₁ : Host.Adapter σ := ⟨⟨c.withToken t₁, .https file service⟩, Config.validate_eq_ok_iff.mp hv⟩
    let adapter₂ : Host.Adapter σ := ⟨⟨c.withToken t₂, .https file service⟩, Config.validate_eq_ok_iff.mp hc⟩
    have hl : Host.Adapter.ofClient ⟨c.withToken t₁, .https file service⟩ = .ok adapter₁ :=
      adapter₁.ofClient_client
    have hr : Host.Adapter.ofClient ⟨c.withToken t₂, .https file service⟩ = .ok adapter₂ :=
      adapter₂.ofClient_client
    simp only [run, hl, hr]
    exact (Host.Adapter.perform_parallels ht adapter₁.configured adapter₂.configured op).answer_apart s

variable {c} {i : Invocation} {environment₁ environment₂ : Environment} {logged₁ logged₂ : Volume}

theorem CommandLine.Invocation.run_apart
    (loads₁ : (resolverOf environment₁ i.configPath).readConfig logged₁.read = .ok (c.withToken t₁))
    (loads₂ : (resolverOf environment₂ i.configPath).readConfig logged₂.read = .ok (c.withToken t₂))
    (authorities : ∀ path, c.caBundlePath = some path → logged₁.read path = logged₂.read path) :
    (i.run ⟨environment₁, logged₁.read, .https logged₁.read service, call, call.time⟩ s).Apart c t₁ t₂ Eq
      (i.run ⟨environment₂, logged₂.read, .https logged₂.read service, call, call.time⟩ s) := by
  have ht := hs.joins h₁ h₂ call authorities
  let s₁ : Surroundings σ := ⟨environment₁, logged₁.read, .https logged₁.read service, call, call.time⟩
  let s₂ : Surroundings σ := ⟨environment₂, logged₂.read, .https logged₂.read service, call, call.time⟩
  have l₁ : s₁.Loads i.configPath (c.withToken t₁) := by
    rw [Surroundings.Loads, s₁.resolver_eq]
    exact loads₁
  have l₂ : s₂.Loads i.configPath (c.withToken t₂) := by
    rw [Surroundings.Loads, s₂.resolver_eq]
    exact loads₂
  have hp := i.run_parallels s₁ s₂ rfl rfl l₁ l₂ ht
  exact { value := hp.value s, effects := hp.effects s, state := hp.state s }

theorem Task.command_apart {files₁ files₂ : Volume} {place : Place} {begin₁ begin₂ : Bytes}
    (hf : files₁.Apart place begin₁ begin₂ files₂)
    (loads₁ : ∀ logged, i.opened files₁ = .ok logged →
      (resolverOf environment₁ i.configPath).readConfig logged.read = .ok (c.withToken t₁))
    (loads₂ : ∀ logged, i.opened files₂ = .ok logged →
      (resolverOf environment₂ i.configPath).readConfig logged.read = .ok (c.withToken t₂))
    (authorities : ∀ logged₁ logged₂, i.opened files₁ = .ok logged₁ → i.opened files₂ = .ok logged₂ →
      ∀ path, c.caBundlePath = some path → logged₁.read path = logged₂.read path) :
    ((command environment₁ files₁ i).run service call s).Apart c t₁ t₂ Product.Alike
      ((command environment₂ files₂ i).run service call s) := by
  unfold Invocation.opened at loads₁ loads₂ authorities
  cases hl : i.logPath
  case none =>
    simp only [hl] at loads₁ loads₂ authorities
    have hr := Invocation.run_apart hs h₁ h₂ call s (loads₁ files₁ rfl) (loads₂ files₂ rfl)
      (authorities _ _ rfl rfl)
    simp only [run, Run.map, Invocation.report_printed hl]
    exact {
      value := .of_completion hr.value (CommandLine.logText_apart hr.effects) fun _ _ _ hb => hb
      effects := hr.effects
      state := hr.state }
  case some path =>
    simp only [hl] at loads₁ loads₂ authorities
    rcases hf.openAppend path with ⟨e, ho₁, ho₂⟩ | ⟨q, logged₁, logged₂, ho₁, ho₂, _⟩
    · simp only [run, Run.map, Invocation.report_unlogged hl ho₁, Invocation.report_unlogged hl ho₂]
      exact {
        value := .report rfl rfl rfl fun _ _ _ hb => hb
        effects := .nil
        state := rfl }
    · rw [ho₁] at loads₁ authorities
      rw [ho₂] at loads₂ authorities
      have hr := Invocation.run_apart hs h₁ h₂ call s (loads₁ logged₁ rfl) (loads₂ logged₂ rfl)
        (authorities _ _ rfl rfl)
      simp only [run, Run.map, Invocation.report_logged hl ho₁, Invocation.report_logged hl ho₂]
      exact {
        value := .of_completion hr.value rfl fun place begin₁ begin₂ hb => by
          rcases hb.openAppend path with ⟨e, hx₁, _⟩ | ⟨q', w₁, w₂, hx₁, hx₂, hw⟩
          · rw [ho₁] at hx₁
            contradiction
          · rw [ho₁] at hx₁
            rw [ho₂] at hx₂
            cases hx₁
            cases hx₂
            rw [CommandLine.logText_apart hr.effects]
            exact hw.append ..
        effects := hr.effects
        state := hr.state }

theorem Task.run_apart {task₁ task₂ : Task} (ht : Apart c t₁ t₂ task₁ task₂) :
    (task₁.run service call s).Apart c t₁ t₂ Product.Alike (task₂.run service call s) := by
  cases ht
  case client file op => exact client_apart hs h₁ h₂ c call s file op
  case host file op => exact host_apart hs h₁ h₂ c call s file op
  case command files loads₁ loads₂ authorities =>
    exact command_apart hs h₁ h₂ call s files loads₁ loads₂ authorities

-- The step is `run_apart`; the session follows by induction on its tasks.
theorem Task.runAll_apart {tasks₁ tasks₂ : List Task} (ht : List.Forall₂ (Apart c t₁ t₂) tasks₁ tasks₂)
    (calls : Nat → Call) (n : Nat) :
    (runAll service calls n tasks₁ s).Apart c t₁ t₂ (List.Forall₂ Product.Alike)
      (runAll service calls n tasks₂ s) := by
  induction ht generalizing n s
  case nil => exact { value := .nil, effects := .nil, state := rfl }
  case cons task₁ task₂ tasks₁ tasks₂ ht _ hi =>
    have hr := run_apart hs h₁ h₂ (calls n) s ht
    have hn := hi (task₁.run service (calls n) s).state (n + 1)
    simp only [runAll, Run.bind_apply, Run.pure_apply, List.append_nil, ← hr.state]
    exact {
      value := .cons hr.value hn.value
      effects := hr.effects.append hn.effects
      state := hn.state }

end

theorem Config.description_withToken (h₁ : IsToken t₁) (h₂ : IsToken t₂) (c : Config) :
    (c.withToken t₁).description = (c.withToken t₂).description := by
  have ht : (c.withToken t₁).tokenMark = (c.withToken t₂).tokenMark := by
    show (if t₁.isEmpty then "<empty>" else "<redacted>") = if t₂.isEmpty then "<empty>" else "<redacted>"
    rw [h₁.isEmpty_eq h₂]
  unfold description
  rw [ht]
  rfl

-- Where no `@` stands in the URL that is configured, nothing but the token vouches for a request.
theorem Config.vouching_of_plain {c : Config} (hp : '@' ∉ c.serviceUrl.toList) (endpoint : Endpoint)
    {url : Http.Url} (h : Http.Url.read? (endpoint.url c) = some url) : url.vouching = "" := by
  refine Http.Url.vouching_of_plain h fun hm => ?_
  rw [Endpoint.url, String.toList_append, List.mem_append] at hm
  cases hm
  case inl hm => exact hp hm
  case inr hm => cases endpoint <;> exact absurd hm (by decide +kernel)

-- The calls are given, with their identifiers and times: what is left to differ is what the token decides.
theorem runAll_blind_to_token (hs : service.IgnoresSender) (h₁ : IsToken t₁) (h₂ : IsToken t₂) (c : Config)
    {tasks₁ tasks₂ : List Task} (ht : List.Forall₂ (Task.Apart c t₁ t₂) tasks₁ tasks₂) (calls : Nat → Call)
    (s : σ) :
    (Task.runAll service calls 0 tasks₁ s).Apart c t₁ t₂ (List.Forall₂ Product.Alike)
        (Task.runAll service calls 0 tasks₂ s) ∧
      (c.withToken t₁).description = (c.withToken t₂).description ∧
      (∀ (a : Attempt) (url : Http.Url) (authorization : String),
        ((a.request url).signed authorization).headers.lookup "authorization" = some authorization) ∧
      ('@' ∉ c.serviceUrl.toList → ∀ (endpoint : Endpoint) url,
        Http.Url.read? (endpoint.url c) = some url → url.vouching = "") :=
  ⟨Task.runAll_apart hs h₁ h₂ s ht calls 0, c.description_withToken h₁ h₂, fun _ _ _ => rfl,
    fun hp endpoint _ h => Config.vouching_of_plain hp endpoint h⟩

theorem CommandLine.Invocation.soleFile_apart (text₁ text₂ : String) :
    (soleFile text₁).Apart ["c"] (Utf8.encodeString text₁) (Utf8.encodeString text₂) (soleFile text₂) where
  workingDirectory := rfl
  elsewhere q hq := by
    have hn : (q == ["c"]) = false := by simpa using hq
    simp [Volume.node?, soleFile, List.lookup_cons, hn]
  there := ⟨[], by simp [Volume.node?, soleFile], by simp [Volume.node?, soleFile]⟩

-- A client, an adapter and a command line, each with either token, the last with either in its file.
theorem runAll_blind_to_token_local :
    let config : Config := { apiUrl := "http://localhost:80" }
    let network := Network.rehearsed (.name "localhost") 80
    let file : Volume.Reader := fun _ => .error .notFound
    let check : CommandLine.Invocation := ⟨some "/c", none, .check (.forUser "alice") ["ls"]⟩
    let text (token : String) :=
      "\x7b\"api_url\":\"http://localhost:80\",\"api_token\":\"" ++ token ++ "\"\x7d"
    let tasks (token : String) : List Task :=
      [.client (config.withToken token) file (.check "alice" "door" "open"),
        .host (config.withToken token) file (.checkPolicy ["ls", "-l"] (.forUser "alice")),
        .command (.fixed []) (CommandLine.Invocation.soleFile (text token)) check]
    (network.service.IgnoresSender ∧ IsToken "token" ∧ IsToken "other" ∧
        List.Forall₂ (Task.Apart config "token" "other") (tasks "token") (tasks "other") ∧
        '@' ∉ config.serviceUrl.toList) ∧
      (Task.runAll network.service (fun n => ⟨⟨"r"⟩, n⟩) 0 (tasks "token") [{ bytes := [] }]).Apart config
          "token" "other" (List.Forall₂ Product.Alike)
          (Task.runAll network.service (fun n => ⟨⟨"r"⟩, n⟩) 0 (tasks "other") [{ bytes := [] }]) ∧
        ∀ (endpoint : Endpoint) url, Http.Url.read? (endpoint.url config) = some url → url.vouching = "" := by
  intro config network file check text tasks
  have hs : network.service.IgnoresSender :=
    (Network.rehearsed_isScripted (.name "localhost") 80).ignoresSender.service
  have h₁ : IsToken "token" := { nonempty := by decide, headerText := by decide +kernel }
  have h₂ : IsToken "other" := { nonempty := by decide, headerText := by decide +kernel }
  have ht : List.Forall₂ (Task.Apart config "token" "other") (tasks "token") (tasks "other") := by
    have hf := CommandLine.Invocation.soleFile_apart (text "token") (text "other")
    refine .cons (.client file _) <| .cons (.host file _) <|
      .cons (.command hf ?loads₁ ?loads₂ ?authorities) .nil
    case loads₁ =>
      rintro _ ⟨⟩
      exact CommandLine.Invocation.loads_soleFile (text "token")
        { apiUrl := some "http://localhost:80", apiToken := some "token" } (.fixed [])
        (.https file network.service) (Pure.pure ⟨⟨"r"⟩, 0⟩) 0 (by decide +kernel) (by decide +kernel)
        (by decide +kernel) (by decide +kernel)
    case loads₂ =>
      rintro _ ⟨⟩
      exact CommandLine.Invocation.loads_soleFile (text "other")
        { apiUrl := some "http://localhost:80", apiToken := some "other" } (.fixed [])
        (.https file network.service) (Pure.pure ⟨⟨"r"⟩, 0⟩) 0 (by decide +kernel) (by decide +kernel)
        (by decide +kernel) (by decide +kernel)
    case authorities =>
      intro _ _ _ _ path hp
      contradiction
  have hp : '@' ∉ config.serviceUrl.toList := by decide +kernel
  have h := runAll_blind_to_token hs h₁ h₂ config ht (fun n => ⟨⟨"r"⟩, n⟩) [{ bytes := [] }]
  exact ⟨⟨hs, h₁, h₂, ht, hp⟩, h.left, h.right.right.right hp⟩

-- What a URL says of the sender stands before the token, so that the header is not the token's alone.
theorem perform_vouched_by_url :
    let config : Config := { apiUrl := "http://user:pw@127.0.0.1:18080", apiToken := "tok", retryCount := 0 }
    let client : Client Tape := ⟨config, .https (fun _ => .error .notFound) Tape.service⟩
    let call : Call := ⟨⟨"r"⟩, 0⟩
    let o := client.perform call (.check "alice" "/bin/ls" "execute") { deliveries := [.failed] }
    let authorizations := o.effects.filterMap fun
      | .arrived (.request r) => r.headers.lookup "authorization"
      | _ => none
    authorizations = ["Basic dXNlcjpwdw==, Bearer tok"] ∧ authorizations ≠ ["Bearer " ++ config.apiToken] := by
  decide +kernel

end AccessControl
