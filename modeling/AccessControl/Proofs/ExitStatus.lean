import AccessControl.CommandLine.Run
import AccessControl.Proofs.Effects
import AccessControl.Proofs.Loading
import AccessControl.Transport.Https
import AccessControl.Transport.Tape

namespace AccessControl

namespace Result

theorem verdict_exitStatus_of_isError {r : Result} (h : r.isError = true) :
    r.verdict.exitStatus = CommandLine.Completion.errorStatus := by
  cases r
  case ok | denied | allowed => contradiction
  all_goals rfl

theorem exitStatus_of_isError {r : Result} (h : r.isError = true) :
    r.exitStatus = CommandLine.Completion.errorStatus := by
  have hn : r ≠ .ok := by
    intro hr
    rw [hr] at h
    contradiction
  rw [exitStatus, if_neg hn]
  rfl

end Result

namespace CommandLine

variable {σ : Type}

-- The operation that a subcommand performs, told by its result. The other subcommands perform none.
def Command.operation? (adapter : Host.Adapter σ) (draw : Run σ Call) : Command → Option (Run σ Result)
  | .check user command => some <| (adapter.checkPolicy draw command user).map (·.result)
  | .evaluate principal assets action =>
    some <| (evaluateAssets adapter.client draw principal assets action).map combinedResult
  | .search principal action token size =>
    some <| (adapter.client.search draw principal action token size).map (·.result)
  | .list user (some command) =>
    some <| adapter.client.check draw user.principal command defaultAction
  | .list user none =>
    some <| (adapter.client.searchWith draw user.principal defaultAction none).map (·.result)
  | .validate | .version _ => none

def Command.isList : Command → Bool
  | .list .. => true
  | _ => false

-- What the resolver reads is a configuration that can be used.
def Surroundings.Loads (s : Surroundings σ) (configPath : Option String) (config : Config) : Prop :=
  (s.resolver configPath).readConfig s.file = .ok config

namespace Surroundings.Loads

variable {s : Surroundings σ} {configPath : Option String} {config : Config}

def adapter (h : s.Loads configPath config) : Host.Adapter σ where
  client := { config, transport := s.transport }
  configured := Resolver.isValid_of_readConfig h

theorem load_eq (h : s.Loads configPath config) :
    s.load configPath = pure (true, { s.resolver configPath with config, loaded := true }) := by
  rw [Surroundings.load, Resolver.load_of_readConfig s.time h]
  rfl

theorem withClient_eq (h : s.Loads configPath config) (use : Client σ → Run σ Completion) :
    s.withClient configPath use = use h.adapter.client := by
  rw [withClient, h.load_eq]
  simp [adapter]

theorem withAdapter_eq (h : s.Loads configPath config) (use : Host.Adapter σ → Run σ Completion) :
    s.withAdapter configPath use = use h.adapter := by
  have ha : Host.Adapter.load s.transport (s.resolver configPath) s.file s.time =
      (.ok h.adapter, [], { s.resolver configPath with config, loaded := true }) := by
    rw [Host.Adapter.load, Resolver.load_of_readConfig s.time h, ← h.adapter.ofClient_client]
    rfl
  rw [withAdapter, ha]
  simp only [List.forM_eq_forM, List.forM_nil, pure_bind]

end Surroundings.Loads

namespace Invocation

variable {i : Invocation} {s : Surroundings σ} {config : Config} {op : Run σ Result}

-- A listing that gets as far as its operation reports success.
theorem run_list_status (h : s.Loads i.configPath config) (hc : i.command.isList = true) (state : σ) :
    (i.run s state).value.status = 0 := by
  unfold run
  cases hi : i.command
  case list user command =>
    simp only [h.withAdapter_eq]
    rfl
  all_goals
    rw [hi] at hc
    contradiction

-- A check, an evaluation and a search pass on what their operation came to; a listing does not.
theorem run_status_of_isError (h : s.Loads i.configPath config)
    (ho : i.command.operation? h.adapter s.draw = some op) (state : σ)
    (he : (op state).value.isError = true) :
    (i.run s state).value.status = if i.command.isList then 0 else Completion.errorStatus := by
  unfold run
  cases hc : i.command
  case check user command =>
    cases hc ▸ ho
    simp only [h.withAdapter_eq]
    have hv := h.adapter.verdict_checkPolicy s.draw command user state
    exact (congrArg Verdict.exitStatus hv).trans (Result.verdict_exitStatus_of_isError he)
  case evaluate principal assets action =>
    cases hc ▸ ho
    simp only [h.withClient_eq]
    exact Result.verdict_exitStatus_of_isError he
  case search principal action token size =>
    cases hc ▸ ho
    simp only [h.withClient_eq]
    exact Result.exitStatus_of_isError he
  case list user command =>
    have hr := run_list_status h (congrArg Command.isList hc) state
    rwa [run, hc] at hr
  case validate =>
    cases hc ▸ ho
  case version verbose =>
    cases hc ▸ ho

-- The tree of files as the run finds it: with its log opened, if it keeps one in a file.
def opened (i : Invocation) (files : Volume) : Except FileError Volume :=
  match i.logPath with
  | none => .ok files
  | some path => (files.openAppend path).map (·.2)

variable {environment : Environment} {files logged : Volume}
  {transport : Volume.Reader → Transport σ} {draw : Run σ Call} {time : Nat}

section

variable {state : σ} {path : String} {place : Place}

theorem report_printed (hl : i.logPath = none) :
    i.report environment files transport draw time state =
      let o := i.run ⟨environment, files.read, transport files.read, draw, time⟩ state
      ⟨.ofCompletion o.value (logText o.effects) files, o.effects, o.state⟩ := by
  unfold report
  rw [hl]

theorem report_logged (hl : i.logPath = some path) (ho : files.openAppend path = .ok (place, logged)) :
    i.report environment files transport draw time state =
      let o := i.run ⟨environment, logged.read, transport logged.read, draw, time⟩ state
      ⟨.ofCompletion o.value "" (logged.append place (Utf8.encodeString (logText o.effects))),
        o.effects, o.state⟩ := by
  unfold report
  simp only [hl, ho]

theorem report_unlogged {e : FileError} (hl : i.logPath = some path) (ho : files.openAppend path = .error e) :
    i.report environment files transport draw time state =
      ⟨.ofCompletion (.failed (logComplaint path e)) "" files, [], state⟩ := by
  unfold report
  simp only [hl, ho]

end

-- Once its log is open, a report is that of the run.
theorem report_value (environment : Environment) (transport : Volume.Reader → Transport σ) (draw : Run σ Call)
    (time : Nat) (h : i.opened files = .ok logged) (state : σ) :
    ∃ errors after, (i.report environment files transport draw time state).value =
      .ofCompletion (i.run ⟨environment, logged.read, transport logged.read, draw, time⟩ state).value errors after := by
  unfold opened at h
  cases hl : i.logPath <;> simp only [hl] at h
  case none =>
    cases h
    rw [report_printed hl]
    exact ⟨_, _, rfl⟩
  case some path =>
    cases ho : files.openAppend path <;> rw [ho] at h
    case error e => contradiction
    case ok opened =>
      cases h
      rw [report_logged hl ho]
      exact ⟨_, _, rfl⟩

theorem report_status (h : i.opened files = .ok logged) (state : σ) :
    (i.report environment files transport draw time state).value.status =
      (i.run ⟨environment, logged.read, transport logged.read, draw, time⟩ state).value.status := by
  have ⟨errors, after, hv⟩ := report_value environment transport draw time h state
  rw [hv]
  rfl

theorem report_status_of_isError (hf : i.opened files = .ok logged)
    (hl : Surroundings.Loads ⟨environment, logged.read, transport logged.read, draw, time⟩ i.configPath config)
    (ho : i.command.operation? hl.adapter draw = some op) (state : σ)
    (he : (op state).value.isError = true) :
    (i.report environment files transport draw time state).value.status =
      if i.command.isList then 0 else Completion.errorStatus := by
  rw [report_status hf]
  exact run_status_of_isError hl ho state he

-- A tree with nothing but one file in it.
def soleFile (text : String) : Volume :=
  ⟨[(["c"], .file (Utf8.encodeString text))], []⟩

theorem read_soleFile (text : String) : (soleFile text).read "/c" = .ok (Utf8.encodeString text) := by
  have hn : Volume.names "/c" = ["c"] := by cbv
  have hl : (soleFile text).locate "/c" =
      .ok (.present ["c"] (.file (Utf8.encodeString text))) := by
    rw [Volume.locate, hn]
    rfl
  rw [Volume.read, hl]
  rfl

theorem loads_soleFile (text : String) (settings : Settings) (e : Environment) (t : Transport σ)
    (draw : Run σ Call) (time : Nat) (ht : Settings.ofText (Utf8.encodeString text) = .ok settings)
    (hs : (Utf8.encodeString text).length ≤ Settings.maxFileSize)
    (hu : (Utf8.decode? (Utf8.encodeString text)).isSome = true)
    (hv : (Config.ofSettings settings e).isValid = true) :
    Surroundings.Loads ⟨e, (soleFile text).read, t, draw, time⟩ (some "/c") (Config.ofSettings settings e) := by
  have hl : Settings.load (soleFile text).read "/c" = .ok settings := by
    rw [Settings.load_of_content Settings.checkPath_c (read_soleFile text) hs hu, ht]
    rfl
  have hr : Resolver.readConfig { Resolver.ofEnvironment e with path := "/c" } (soleFile text).read =
      .ok (Config.ofSettings settings e) := by
    rw [Resolver.readConfig_of_load hl]
    simp only [Resolver.ofEnvironment, Config.validate_eq_ok_iff.mpr hv]
    rfl
  exact hr

-- A service that does not know the token: the check ends with the error status.
theorem report_status_of_rejected_check :
    let files := soleFile "\x7b\"api_url\":\"http://127.0.0.1:18080\",\"api_token\":\"token\"\x7d"
    let i : Invocation := ⟨some "/c", none, .check (.forUser "alice") ["/bin/ls", "-l"]⟩
    let tape : Tape := { deliveries := [.response ⟨401, some 0, [], .complete⟩] }
    let call : Call := ⟨⟨"r"⟩, 0⟩
    (i.report (.fixed []) files (.https · Tape.service) call 0 tape).value.status = 2 := by
  intro files i tape call
  let settings : Settings := { apiUrl := some "http://127.0.0.1:18080", apiToken := some "token" }
  let config := Config.ofSettings settings (.fixed [])
  let adapter : Host.Adapter Tape := ⟨⟨config, .https files.read Tape.service⟩, by decide +kernel⟩
  have hl : Surroundings.Loads
      ⟨.fixed [], files.read, .https files.read Tape.service, call, 0⟩ (some "/c") config :=
    loads_soleFile _ settings _ _ _ _ (by decide +kernel) (by decide +kernel) (by decide +kernel)
      (by decide +kernel)
  have ho : i.command.operation? hl.adapter call =
    some ((adapter.checkPolicy call ["/bin/ls", "-l"] (.forUser "alice")).map (·.result)) := rfl
  exact report_status_of_isError rfl hl ho tape (by decide +kernel)

-- The same service, and a listing: the operation failed, and the run reports success.
theorem report_status_of_rejected_list :
    let files := soleFile "\x7b\"api_url\":\"http://127.0.0.1:18080\",\"api_token\":\"token\"\x7d"
    let i : Invocation := ⟨some "/c", none, .list (.forUser "alice") (some "/bin/ls")⟩
    let tape : Tape := { deliveries := [.response ⟨401, some 0, [], .complete⟩] }
    let client : Client Tape :=
      ⟨{ apiUrl := "http://127.0.0.1:18080", apiToken := "token" }, .https files.read Tape.service⟩
    let call : Call := ⟨⟨"r"⟩, 0⟩
    (client.check call "alice" "/bin/ls" defaultAction tape).value = .authError ∧
      (i.report (.fixed []) files (.https · Tape.service) call 0 tape).value.status = 0 := by
  intro files i tape client call
  let settings : Settings := { apiUrl := some "http://127.0.0.1:18080", apiToken := some "token" }
  have hl : Surroundings.Loads
      ⟨.fixed [], files.read, .https files.read Tape.service, call, 0⟩ (some "/c") client.config :=
    loads_soleFile _ settings _ _ _ _ (by decide +kernel) (by decide +kernel) (by decide +kernel)
      (by decide +kernel)
  refine ⟨by decide +kernel, ?_⟩
  rw [report_status rfl]
  exact run_list_status hl rfl tape

end Invocation
end CommandLine
end AccessControl
