import AccessControl.Proofs.FileChecks
import AccessControl.Proofs.LogFile
import AccessControl.Proofs.Reloading

namespace AccessControl

open Settings (Check)

namespace Resolver

variable {r : Resolver} {file : Volume.Reader}

-- Why nothing is loaded: the file fails a check, or with all words of the environment in place nobody has named the
-- service, or given a token for it.
inductive Refuses (r : Resolver) (file : Volume.Reader) : Prop
  | unread (c : Check) (fails : ¬c.Passes file r.path)
  | incomplete {s : Settings} (loads : Settings.load file r.path = .ok s)
      (missing : (Config.ofSettings s r.environment).apiUrl = "" ∨ (Config.ofSettings s r.environment).apiToken = "")

theorem not_refuses_of_readConfig {config : Config} (h : r.readConfig file = .ok config) : ¬r.Refuses file := by
  obtain ⟨s, hs, hc, hv⟩ := readConfig_eq_ok_iff.mp h
  simp only [Config.isValid, Bool.and_eq_true, Bool.not_eq_true', String.isEmpty_eq_false_iff] at hv
  rintro (⟨c, hn⟩ | ⟨hs', hm⟩)
  case unread => exact hn (Settings.passes_of_load hs c)
  case incomplete =>
    cases hs.symm.trans hs'
    exact hm.elim (hc ▸ hv.left) (hc ▸ hv.right)

theorem refuses_iff : r.Refuses file ↔ ∃ e, r.readConfig file = .error e := by
  constructor
  case mp =>
    intro h
    cases hr : r.readConfig file
    case error e => exact ⟨e, rfl⟩
    case ok config => exact absurd h (not_refuses_of_readConfig hr)
  case mpr =>
    rintro ⟨e, he⟩
    cases hs : Settings.load file r.path
    case error =>
      obtain ⟨c, hc, _⟩ := Settings.load_eq_error_iff.mp hs
      exact .unread c hc.fails
    case ok s =>
      rw [readConfig_of_load hs] at he
      refine .incomplete hs ?_
      by_contra hm
      have hv : (Config.ofSettings s r.environment).validate = .ok () := by
        rw [Config.validate_eq_ok_iff, Config.isValid]
        simpa using hm
      rw [hv] at he
      contradiction

theorem refuses_iff_load (time : Nat) : r.Refuses file ↔ (r.load file time).1 = false := by
  rw [refuses_iff, load_success]
  cases r.readConfig file <;> simp [Except.isOk, Except.toBool]

end Resolver

namespace CommandLine

variable {σ : Type}

namespace Surroundings

-- Looking for a configuration ends in this error.
def Fails (s : Surroundings σ) (configPath : Option String) (e : ConfigError) : Prop :=
  (s.resolver configPath).readConfig s.file = .error e

-- What such a run comes to: what is left to say, and one record.
def unloaded (s : Surroundings σ) (configPath : Option String) (e : ConfigError) (c : Completion) : Run σ Completion :=
  fun state => ⟨c, [.logged ((s.resolver configPath).failureEvent s.time e)], state⟩

namespace Fails

variable {s : Surroundings σ} {configPath : Option String} {e : ConfigError} (h : s.Fails configPath e)

include h

theorem withClient_eq (use : Client σ → Run σ Completion) :
    s.withClient configPath use =
      s.unloaded configPath e (.failed ("failed to load configuration from " ++ (s.resolver configPath).path)) := by
  unfold withClient Surroundings.load
  rw [Resolver.load_of_readConfig_error s.time h]
  rfl

theorem withAdapter_eq (use : Host.Adapter σ → Run σ Completion) :
    s.withAdapter configPath use =
      s.unloaded configPath e (.failed ("invalid configuration: failed to load " ++ (s.resolver configPath).path)) := by
  unfold withAdapter Host.Adapter.load
  rw [Resolver.load_of_readConfig_error s.time h]
  rfl

end Fails
end Surroundings

namespace Command

-- Only a version without details is told without a configuration.
def loads : Command → Bool
  | version verbose => verbose
  | _ => true

-- What is printed where no configuration is found, and what is complained of.
def unloadedOutput : Command → String
  | validate => "CONFIG_ERROR: Configuration Error\n"
  | _ => ""

def unloadedComplaint (path : String) : Command → String
  | check .. | list .. | version .. => "invalid configuration: failed to load " ++ path ++ "\n"
  | evaluate .. | search .. => "failed to load configuration from " ++ path ++ "\n"
  | validate => ""

end Command

-- What the end of a run leaves to be printed.
theorem Report.ofCompletion_failed (complaint errors : String) (files : Volume) :
    Report.ofCompletion (.failed complaint) errors files = ⟨2, "", errors ++ (complaint ++ "\n"), files⟩ := by
  simp [Report.ofCompletion, Completion.failed, Completion.errorStatus, String.join]

theorem Report.ofCompletion_line (status : UInt8) (line errors : String) (files : Volume) :
    Report.ofCompletion { status, output := [line] } errors files = ⟨status, line ++ "\n", errors, files⟩ := by
  simp [Report.ofCompletion, String.join]

namespace Invocation

variable {i : Invocation} {s : Surroundings σ} {e : ConfigError}

-- The way to the service goes through a configuration, whichever of the three ways is taken.
theorem run_of_fails (h : s.Fails i.configPath e) (hc : i.command.loads = true) :
    ∃ c, i.run s = s.unloaded i.configPath e c ∧
      ∀ errors files, Report.ofCompletion c errors files =
        ⟨2, i.command.unloadedOutput, errors ++ i.command.unloadedComplaint (s.resolver i.configPath).path, files⟩ := by
  unfold run
  cases hi : i.command
  case check | list =>
    simp only [h.withAdapter_eq]
    refine ⟨_, rfl, fun errors files => ?_⟩
    rw [Report.ofCompletion_failed]
    rfl
  case evaluate | search =>
    simp only [h.withClient_eq]
    refine ⟨_, rfl, fun errors files => ?_⟩
    rw [Report.ofCompletion_failed]
    rfl
  case version verbose =>
    have hv : verbose = true := by rwa [hi] at hc
    simp only [hv, if_true, h.withAdapter_eq]
    refine ⟨_, rfl, fun errors files => ?_⟩
    rw [Report.ofCompletion_failed]
    rfl
  case validate =>
    let line := Result.configError.name ++ ": " ++ Result.configError.description
    have hl : line ++ "\n" = Command.unloadedOutput .validate := by decide +kernel
    simp only [Surroundings.load, Resolver.load_of_readConfig_error s.time h]
    refine ⟨⟨2, [line], none⟩, rfl, fun errors files => ?_⟩
    rw [Report.ofCompletion_line, hl]
    exact congrArg (Report.mk 2 _ · files) String.append_empty.symm

-- A configuration that loads is one that can be used, and the word for that is printed.
theorem run_validate_of_loads {config : Config} (h : s.Loads i.configPath config) (hc : i.command = .validate)
    (state : σ) : (i.run s state).value = ⟨0, ["OK: Success"], none⟩ := by
  have hv : (Client.mk config s.transport).validate = .ok := by
    rw [Client.validate, if_pos (Resolver.isValid_of_readConfig h)]
  have hl : Result.ok.name ++ ": " ++ Result.ok.description = "OK: Success" := by decide +kernel
  simp only [run, hc, h.load_eq, pure_bind, if_true, hv, hl]
  rfl

-- The one record of a run, and what is complained of: the record stands before that on the error stream, or at the end
-- of the log file.
inductive Delivers (i : Invocation) (files : Volume) (record : Log.Event) (complaint : String) (r : Report) : Prop
  | printed (chosen : i.logPath = none) (errors : r.errors = record.line ++ "\n" ++ complaint)
      (untouched : r.files = files)
  | appended {path : String} {place : Place} {logged : Volume} {prior : Bytes} (chosen : i.logPath = some path)
      (opens : files.openAppend path = .ok (place, logged)) (there : files.IsThere place prior)
      (grown : r.files.node? place = some (.file (prior ++ Utf8.encodeString (record.line ++ "\n"))))
      (elsewhere : ∀ q, q ≠ place → r.files.node? q = logged.node? q) (errors : r.errors = complaint)

-- What comes of a run without a configuration: the error status, one record of the load, and no request.
structure EndsUnloaded (i : Invocation) (files : Volume) (path : String) (record : Log.Event) (state : σ)
    (o : Outcome σ Report) : Prop where
  status : o.value.status = 2
  output : o.value.output = i.command.unloadedOutput
  delivers : i.Delivers files record (i.command.unloadedComplaint path) o.value
  effects : o.effects = [.logged record]
  state : o.state = state

section

variable {environment : Environment} {files logged : Volume} {transport : Volume.Reader → Transport σ}
  {draw : Run σ Call} {time : Nat}

theorem report_of_fails (hf : i.opened files = .ok logged)
    (h : Surroundings.Fails ⟨environment, logged.read, transport logged.read, draw, time⟩ i.configPath e)
    (hc : i.command.loads = true) (state : σ) :
    let r := Surroundings.resolver ⟨environment, logged.read, transport logged.read, draw, time⟩ i.configPath
    i.EndsUnloaded files r.path (r.failureEvent time e) state
      (i.report environment files transport draw time state) := by
  intro r
  obtain ⟨c, hr, hw⟩ := run_of_fails h hc
  have lines (record : Log.Event) : logText [.logged record] = record.line ++ "\n" := by
    simp [logText, Log.lines, String.join]
  unfold opened at hf
  cases hl : i.logPath <;> simp only [hl] at hf
  case none =>
    cases hf
    rw [report_printed hl, hr]
    simp only [Surroundings.unloaded, hw, lines]
    exact { status := rfl, output := rfl, delivers := .printed hl rfl rfl, effects := rfl, state := rfl }
  case some path =>
    cases ho : files.openAppend path <;> rw [ho] at hf <;> cases hf
    case ok opened =>
      obtain ⟨place, logged⟩ := opened
      obtain ⟨prior, ht, hh⟩ := Volume.Holds.of_openAppend ho
      rw [report_logged hl ho, hr]
      simp only [Surroundings.unloaded, hw, lines]
      exact {
        status := rfl
        output := rfl
        delivers :=
          .appended hl ho ht (hh.append _).node?_eq (fun q hq => hh.append_elsewhere _ hq) String.empty_append
        effects := rfl
        state := rfl }

theorem report_validate_of_loads {config : Config} (hf : i.opened files = .ok logged)
    (h : Surroundings.Loads ⟨environment, logged.read, transport logged.read, draw, time⟩ i.configPath config)
    (hc : i.command = .validate) (state : σ) :
    let o := i.report environment files transport draw time state
    o.value.status = 0 ∧ o.value.output = "OK: Success\n" := by
  intro o
  have ⟨errors, after, hv⟩ := report_value environment transport draw time hf state
  have hr : o.value = ⟨0, "OK: Success" ++ "\n", errors, after⟩ := by
    rw [hv, run_validate_of_loads h hc state, Report.ofCompletion_line]
  have hp : "OK: Success" ++ "\n" = "OK: Success\n" := by decide +kernel
  exact ⟨congrArg Report.status hr, (congrArg Report.output hr).trans hp⟩

end

-- A run that finds no configuration asks nobody anything, and a run without its log looks for none.
theorem report_without_configuration (i : Invocation) (environment : Environment) (files : Volume)
    (transport : Volume.Reader → Transport σ) (draw : Run σ Call) (time : Nat) (state : σ) :
    let o := i.report environment files transport draw time state
    (∀ logged, i.opened files = .ok logged →
      let r := Surroundings.resolver ⟨environment, logged.read, transport logged.read, draw, time⟩ i.configPath
      (r.Refuses logged.read ↔ (r.load logged.read time).1 = false) ∧
      (i.command.loads = true → r.Refuses logged.read →
        ∃ e, r.readConfig logged.read = .error e ∧
          let record : Log.Event := ⟨"config_load_failed", .error, time, none, r.path ++ ": " ++ e.message⟩
          i.EndsUnloaded files r.path record state o) ∧
      (i.command = .validate →
        (o.value.status = 0 ↔ ¬r.Refuses logged.read) ∧
          (o.value.output = "OK: Success\n" ↔ ¬r.Refuses logged.read))) ∧
      ∀ path e, i.logPath = some path → files.openAppend path = .error e →
        o = ⟨⟨2, "", "failed to open log file " ++ path ++ ": " ++ e.message ++ "\n", files⟩, [], state⟩ := by
  intro o
  refine ⟨fun logged hf => ?opened, fun path e hl ho => ?closed⟩
  case opened =>
    intro r
    have ends (hc : i.command.loads = true) (hr : r.Refuses logged.read) :
        ∃ e, r.readConfig logged.read = .error e ∧
          i.EndsUnloaded files r.path (r.failureEvent time e) state o := by
      obtain ⟨e, he⟩ := Resolver.refuses_iff.mp hr
      exact ⟨e, he, report_of_fails hf he hc state⟩
    refine ⟨Resolver.refuses_iff_load time, ends, fun hc => ?_⟩
    by_cases hr : r.Refuses logged.read
    case pos =>
      obtain ⟨e, _, ho⟩ := ends (by rw [hc]; rfl) hr
      have hs : o.value.status ≠ 0 := by
        rw [ho.status]
        decide
      have ht : o.value.output ≠ "OK: Success\n" := by
        rw [ho.output, hc]
        decide +kernel
      exact ⟨iff_of_false hs (not_not_intro hr), iff_of_false ht (not_not_intro hr)⟩
    case neg =>
      cases hl : r.readConfig logged.read
      case error e => exact absurd (Resolver.refuses_iff.mpr ⟨e, hl⟩) hr
      case ok config =>
        obtain ⟨hs, ht⟩ := report_validate_of_loads hf hl hc state
        exact ⟨iff_of_true hs hr, iff_of_true ht hr⟩
  case closed =>
    have hr : o = _ := report_unlogged hl ho
    rw [hr, Report.ofCompletion_failed, String.empty_append]
    rfl

-- A check in a tree without any files: there is one record, and nothing is sent.
theorem report_without_configuration_missing :
    let files : Volume := ⟨[], []⟩
    let i : Invocation := ⟨some "/c", none, .check (.forUser "alice") ["ls"]⟩
    let call : Call := ⟨⟨"r"⟩, 8⟩
    let o := i.report (.fixed []) files (.https · Tape.service) call 7 { deliveries := [] }
    (Resolver.withPath (.ofEnvironment (.fixed [])) "/c").Refuses files.read ∧
      o.effects = [.logged ⟨"config_load_failed", .error, 7, none, "/c: " ++ (ConfigError.io .notFound).message⟩] := by
  intro files i call o
  let r := Resolver.withPath (.ofEnvironment (.fixed [])) "/c"
  have hf : files.read "/c" = .error .notFound := by cbv
  have hr : r.readConfig files.read = .error (.io .notFound) :=
    Resolver.readConfig_of_load_error (Settings.load_of_unreadable Settings.checkPath_c hf)
  have hn : r.Refuses files.read := Resolver.refuses_iff.mpr ⟨_, hr⟩
  obtain ⟨hopen, _⟩ := report_without_configuration i (.fixed []) files (.https · Tape.service) call 7
    { deliveries := [] }
  obtain ⟨e, he, ho⟩ := (hopen files rfl).2.1 rfl hn
  have heq : e = .io .notFound := Except.error.inj (he.symm.trans hr)
  refine ⟨hn, ?_⟩
  rw [ho.effects, heq]
  rfl

end Invocation
end CommandLine
end AccessControl
