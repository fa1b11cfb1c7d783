import AccessControl.Host.Setup
import AccessControl.Proofs.Loading

namespace AccessControl

theorem toOption_eq_some_iff {x : Except ε α} {a : α} : x.toOption = some a ↔ x = .ok a := by
  cases x <;> simp [Except.toOption]

theorem isOk_iff {x : Except ε α} : x.isOk = true ↔ ∃ a, x = .ok a := by
  cases x <;> simp [Except.isOk, Except.toBool]

theorem Settings.content_of_load {file : Volume.Reader} {path : String} {settings : Settings}
    (h : load file path = .ok settings) :
    ∃ content, file path = .ok content ∧ ofText content = .ok settings := by
  unfold load at h
  split at h
  case h_1 => contradiction
  case h_2 =>
    split at h
    case h_1 => contradiction
    case h_2 content hf =>
      split at h
      case isTrue => contradiction
      case isFalse =>
        split at h
        case isTrue => contradiction
        case isFalse =>
          split at h
          case h_1 settings' ht => exact ⟨content, hf, (Except.ok.inj h) ▸ ht⟩
          case h_2 => contradiction

namespace Resolver

variable {r : Resolver} {file : Volume.Reader} {config : Config}

theorem readConfig_eq_ok_iff :
    r.readConfig file = .ok config ↔
      ∃ settings, Settings.load file r.path = .ok settings ∧
        config = Config.ofSettings settings r.environment ∧ config.isValid = true := by
  cases hs : Settings.load file r.path
  case error e => simp [readConfig_of_load_error hs]
  case ok settings =>
    rw [readConfig_of_load hs]
    simp only [Except.ok.injEq, exists_eq_left']
    constructor
    case mp =>
      intro h
      have hc : config = Config.ofSettings settings r.environment := by
        cases hv : (Config.ofSettings settings r.environment).validate <;> rw [hv] at h
        case error e => contradiction
        case ok => exact (Except.ok.inj h).symm
      exact ⟨hc, isValid_of_readConfig <| (readConfig_of_load hs).trans h⟩
    case mpr =>
      intro ⟨hc, hv⟩
      rw [Config.validate_eq_ok_iff.mpr (hc ▸ hv), hc]
      rfl

-- The resolver holds the configuration, or it holds none and shows the default one.
structure Holds (r : Resolver) (held : Option Config) : Prop where
  loaded : r.loaded = held.isSome
  config : r.config = held.getD .default
  valid : ∀ c, held = some c → c.isValid = true

namespace Holds

variable {held : Option Config}

theorem ofEnvironment (env : Environment) : (Resolver.ofEnvironment env).Holds none where
  loaded := rfl
  config := rfl
  valid := nofun

-- What a resolver holds does not depend on where it looks.
theorem withPath (h : r.Holds held) (path : String) : (r.withPath path).Holds held where
  loaded := h.loaded
  config := h.config
  valid := h.valid

theorem tryLoad : (r.tryLoad file).2.Holds (r.readConfig file).toOption := by
  unfold Resolver.tryLoad
  cases h : r.readConfig file
  case error e => exact { loaded := rfl, config := rfl, valid := nofun }
  case ok c =>
    refine { loaded := rfl, config := rfl, valid := ?_ }
    intro c' hc
    cases hc
    exact isValid_of_readConfig h

theorem isValid_iff (h : r.Holds held) : r.isValid = true ↔ held.isSome = true := by
  rw [isValid, Bool.and_eq_true, h.loaded]
  refine and_iff_left_of_imp fun hs => ?_
  have ⟨c, hc⟩ := Option.isSome_iff_exists.mp hs
  rw [h.config, hc]
  exact h.valid c hc

end Holds

-- All three ways to load leave the same resolver behind, and only the first two are heard of.
theorem load_resolver (time : Nat) : (r.load file time).2.2 = (r.tryLoad file).2 := by
  unfold load tryLoad
  cases r.readConfig file <;> rfl

theorem load_success (time : Nat) : (r.load file time).1 = (r.readConfig file).isOk := by
  unfold load tryLoad
  cases r.readConfig file <;> rfl

theorem tryLoad_success : (r.tryLoad file).1.isOk = (r.readConfig file).isOk := by
  unfold tryLoad
  cases r.readConfig file <;> rfl

@[simp]
theorem tryLoad_environment : (r.tryLoad file).2.environment = r.environment := by
  unfold tryLoad
  cases r.readConfig file <;> rfl

-- The level and the name of every record of a load.
theorem load_records (time : Nat) :
    (r.load file time).2.1.map (fun e => (e.level, e.name)) =
      if (r.readConfig file).isOk then [] else [(.error, "config_load_failed")] := by
  unfold load tryLoad
  cases r.readConfig file <;> rfl

end Resolver

namespace Host

open Resolver

namespace Adapter

variable {σ : Type} (transport : Transport σ) (r : Resolver) (file : Volume.Reader) (time : Nat)

-- Loading for an adapter is loading, and then the adapter of what was loaded.
theorem load_eq :
    (load transport r file time).2 = (r.load file time).2 ∧
      (load transport r file time).1.isOk = (r.load file time).1 ∧
      ∀ adapter, (load transport r file time).1 = .ok adapter →
        adapter.client = { config := (r.load file time).2.2.config, transport } := by
  cases h : r.readConfig file
  case error e =>
    rw [load, load_of_readConfig_error time h]
    exact ⟨rfl, rfl, fun _ h => absurd h (by simp)⟩
  case ok config =>
    let adapter : Adapter σ := ⟨{ config, transport }, isValid_of_readConfig h⟩
    have ha : ofClient { config, transport } = .ok adapter := adapter.ofClient_client
    rw [load, load_of_readConfig time h]
    dsimp only
    rw [if_pos rfl, ha]
    refine ⟨rfl, rfl, ?_⟩
    intro adapter' he
    rw [← Except.ok.inj he]

end Adapter

namespace Setup

variable {σ : Type} {transport : Transport σ} {s : Setup} {kept : Option Config}

-- Whether a failure of the step is recorded.
def Step.isRecorded : Step → Bool
  | load _ | loadAdapter _ => true
  | _ => false

namespace Moment

-- What is found where the resolver looks is a configuration that can be used.
def Finds (m : Moment σ) (env : Environment) (config : Config) : Prop :=
  ∃ content settings, m.before.file m.before.resolver.path = .ok content ∧
    Settings.ofText content = .ok settings ∧
    Settings.load m.before.file m.before.resolver.path = .ok settings ∧
    config = .ofSettings settings env ∧ config.isValid = true

-- A recorded failure leaves one record in the sink of the moment, and all else leaves none.
def RecordsFailure (m : Moment σ) : Prop :=
  ∃ events : List Log.Event,
    (∀ sink, m.after.records sink =
      m.before.records sink ++ if sink = m.before.sink then events else []) ∧
    events.map (fun e => (e.level, e.name)) =
      if m.step.isRecorded ∧ m.answer.isSuccess = false then [(.error, "config_load_failed")] else []

-- An adapter comes of a load that succeeds, and has the configuration that was loaded.
def AdaptsLoaded (m : Moment σ) (transport : Transport σ) : Prop :=
  ∀ time, m.step = .loadAdapter time →
    ∃ result, m.answer = .adapter result ∧
      result.isOk = (m.before.resolver.load m.before.file time).1 ∧
      ∀ adapter, result = .ok adapter →
        adapter.client = { config := m.after.resolver.config, transport } ∧
          adapter.client.config.isValid = true

-- What a load at the moment leaves the resolver with.
def found (m : Moment σ) : Option Config :=
  (m.before.resolver.readConfig m.before.file).toOption

theorem found_eq_some_iff {m : Moment σ} {config : Config} :
    m.found = some config ↔ m.Finds m.before.resolver.environment config := by
  rw [found, toOption_eq_some_iff, readConfig_eq_ok_iff]
  constructor
  case mp =>
    intro ⟨settings, hl, hc, hv⟩
    have ⟨content, hf, ht⟩ := Settings.content_of_load hl
    exact ⟨content, settings, hf, ht, hl, hc, hv⟩
  case mpr =>
    intro ⟨_, settings, _, _, hl, hc, hv⟩
    exact ⟨settings, hl, hc, hv⟩

end Moment

section Step

variable {step : Step}

theorem step_resolver_of_isLoad (h : step.isLoad = true) :
    (s.step transport step).2.resolver = (s.resolver.tryLoad s.file).2 := by
  cases step
  case load time => exact load_resolver time
  case tryLoad => rfl
  case loadAdapter time =>
    have ⟨hl, _⟩ := Adapter.load_eq transport s.resolver s.file time
    exact (congrArg Prod.snd hl).trans <| load_resolver time
  all_goals contradiction

theorem step_isSuccess_of_isLoad (h : step.isLoad = true) :
    (s.step transport step).1.isSuccess = (s.resolver.readConfig s.file).isOk := by
  cases step
  case load time => exact load_success time
  case tryLoad => exact tryLoad_success
  case loadAdapter time =>
    have ⟨_, ho, _⟩ := Adapter.load_eq transport s.resolver s.file time
    exact ho.trans <| load_success time
  all_goals contradiction

theorem step_environment :
    (s.step transport step).2.resolver.environment = s.resolver.environment := by
  by_cases h : step.isLoad = true
  case pos => rw [step_resolver_of_isLoad h, tryLoad_environment]
  case neg =>
    cases step
    case withPath | withSink | change => rfl
    all_goals exact absurd rfl h

-- The step: a load settles what is held, and nothing else changes it.
theorem step_holds_of_isLoad (h : step.isLoad = true) :
    (s.step transport step).2.resolver.Holds (s.resolver.readConfig s.file).toOption := by
  rw [step_resolver_of_isLoad h]
  exact .tryLoad

theorem step_holds_of_not_isLoad (h : ¬step.isLoad = true) (hs : s.resolver.Holds kept) :
    (s.step transport step).2.resolver.Holds kept := by
  cases step
  case withPath path => exact hs.withPath path
  case withSink | change => exact hs
  all_goals exact absurd rfl h

theorem step_recordsFailure :
    Moment.RecordsFailure ⟨s, step, (s.step transport step).1, (s.step transport step).2⟩ := by
  cases step
  case load time =>
    refine ⟨(s.resolver.load s.file time).2.1, fun _ => rfl, ?_⟩
    rw [load_records, step_isSuccess_of_isLoad rfl]
    cases (s.resolver.readConfig s.file).isOk <;> rfl
  case loadAdapter time =>
    have ⟨hl, _⟩ := Adapter.load_eq transport s.resolver s.file time
    refine ⟨(s.resolver.load s.file time).2.1, fun sink => ?_, ?_⟩
    · rw [← hl]
      rfl
    · rw [load_records, step_isSuccess_of_isLoad rfl]
      cases (s.resolver.readConfig s.file).isOk <;> rfl
  all_goals exact ⟨[], fun sink => by simp [Setup.step], rfl⟩

theorem step_adaptsLoaded :
    Moment.AdaptsLoaded ⟨s, step, (s.step transport step).1, (s.step transport step).2⟩ transport := by
  intro time h
  cases h
  have ⟨hl, ho, ha⟩ := Adapter.load_eq transport s.resolver s.file time
  refine ⟨_, rfl, ho, fun adapter he => ⟨?_, adapter.configured⟩⟩
  rw [ha adapter he, ← hl]
  rfl

end Step

-- The last load of a history.
def lastLoad? (history : List (Moment σ)) : Option (Moment σ) :=
  (history.filter (·.step.isLoad)).getLast?

theorem lastLoad?_cons (m : Moment σ) (history : List (Moment σ)) :
    lastLoad? (m :: history) =
      if m.step.isLoad then some ((lastLoad? history).getD m) else lastLoad? history := by
  unfold lastLoad?
  cases h : m.step.isLoad <;> simp [h, List.getLast?_cons]

theorem isLoad_of_lastLoad? {history : List (Moment σ)} {m : Moment σ}
    (h : lastLoad? history = some m) : m.step.isLoad = true ∧ m ∈ history := by
  have hm := List.mem_filter.mp <| List.mem_of_getLast? h
  exact ⟨hm.right, hm.left⟩

variable {steps : List Step}

-- Every moment is a step from the setup before it, and the environment stays the same throughout.
theorem mem_history {m : Moment σ} (h : m ∈ s.history transport steps) :
    m = ⟨m.before, m.step, (m.before.step transport m.step).1, (m.before.step transport m.step).2⟩ ∧
      m.before.resolver.environment = s.resolver.environment := by
  induction steps generalizing s
  case nil => contradiction
  case cons step steps hi =>
    cases List.mem_cons.mp h
    case inl h => exact ⟨h ▸ rfl, h ▸ rfl⟩
    case inr h =>
      have ⟨hm, he⟩ := hi h
      exact ⟨hm, he.trans step_environment⟩

theorem isSuccess_eq_isSome_found {m : Moment σ} (h : m ∈ s.history transport steps)
    (hl : m.step.isLoad = true) : m.answer.isSuccess = m.found.isSome := by
  rw [(mem_history h).left, Moment.found, step_isSuccess_of_isLoad hl]
  cases m.before.resolver.readConfig m.before.file <;> rfl

-- A load succeeds exactly when there is something for it to find.
theorem isSuccess_iff_finds {m : Moment σ} (h : m ∈ s.history transport steps)
    (hl : m.step.isLoad = true) :
    m.answer.isSuccess = true ↔ ∃ config, m.Finds s.resolver.environment config := by
  rw [isSuccess_eq_isSome_found h hl, Option.isSome_iff_exists]
  simp only [Moment.found_eq_some_iff, (mem_history h).right]

-- The run, by induction on its steps: what is held at its end is what the last load left.
theorem run_holds (hs : s.resolver.Holds kept) :
    (s.run transport steps).resolver.Holds <|
      (lastLoad? (s.history transport steps)).elim kept Moment.found := by
  induction steps generalizing s kept
  case nil => exact hs
  case cons step steps hi =>
    rw [history, lastLoad?_cons, run]
    by_cases h : step.isLoad = true
    case pos =>
      have hn : (s.step transport step).2.resolver.Holds (s.resolver.readConfig s.file).toOption :=
        step_holds_of_isLoad h
      have hr := hi hn
      rw [if_pos h]
      cases hl : lastLoad? ((s.step transport step).2.history transport steps) <;> rw [hl] at hr
      case none => exact hr
      case some m => exact hr
    case neg =>
      rw [if_neg h]
      exact hi <| step_holds_of_not_isLoad h hs

section Fresh

-- Nothing has been loaded before.
variable (hs : s.resolver.Holds none)

include hs

theorem run_isValid_iff :
    (s.run transport steps).resolver.isValid = true ↔
      ∃ m, lastLoad? (s.history transport steps) = some m ∧ m.answer.isSuccess = true := by
  rw [(run_holds hs).isValid_iff]
  cases h : lastLoad? (s.history transport steps)
  case none => simp
  case some m =>
    have ⟨hl, hm⟩ := isLoad_of_lastLoad? h
    simp [isSuccess_eq_isSome_found hm hl]

theorem run_finds_config {m : Moment σ} (h : lastLoad? (s.history transport steps) = some m)
    (ha : m.answer.isSuccess = true) :
    m.Finds s.resolver.environment (s.run transport steps).resolver.config := by
  have ⟨hl, hm⟩ := isLoad_of_lastLoad? h
  rw [isSuccess_eq_isSome_found hm hl] at ha
  have ⟨config, hf⟩ := Option.isSome_iff_exists.mp ha
  have hc : (s.run transport steps).resolver.config = config := by
    rw [(run_holds hs).config, h, Option.elim_some, hf, Option.getD_some]
  rw [hc, ← (mem_history hm).right]
  exact Moment.found_eq_some_iff.mp hf

theorem run_config_of_not_isValid (hv : (s.run transport steps).resolver.isValid = false) :
    (s.run transport steps).resolver.config = .default := by
  have hr : (s.run transport steps).resolver.Holds _ := run_holds hs
  have hn : ¬((lastLoad? (s.history transport steps)).elim none Moment.found).isSome = true := by
    rw [← hr.isValid_iff, hv]
    exact Bool.false_ne_true
  rw [hr.config, Option.not_isSome_iff_eq_none.mp hn, Option.getD_none]

end Fresh

-- The last load alone decides, whatever was loaded before. A load that is only tried leaves no record.
theorem run_reflects_last_load (transport : Transport σ) (env : Environment) (file : Volume.Reader)
    (sink : Nat) (records : Nat → List Log.Event) (steps : List Step) :
    let start : Setup := ⟨.ofEnvironment env, file, sink, records⟩
    let history := start.history transport steps
    let r := (start.run transport steps).resolver
    (r.isValid = true ↔ ∃ m, lastLoad? history = some m ∧ m.answer.isSuccess = true) ∧
      (∀ m, lastLoad? history = some m → m.answer.isSuccess = true → m.Finds env r.config) ∧
      (r.isValid = false → r.config = .default) ∧
      ∀ m ∈ history,
        (m.step.isLoad = true → (m.answer.isSuccess = true ↔ ∃ config, m.Finds env config)) ∧
          m.RecordsFailure ∧ m.AdaptsLoaded transport := by
  intro start history r
  have hs : start.resolver.Holds none := .ofEnvironment env
  refine ⟨run_isValid_iff hs, fun m => run_finds_config hs, run_config_of_not_isValid hs, ?_⟩
  intro m hm
  refine ⟨isSuccess_iff_finds hm, ?_, ?_⟩
  all_goals rw [(mem_history hm).left]
  · exact step_recordsFailure
  · exact step_adaptsLoaded

-- A configuration is loaded, and a second load finds nothing: all that is left is a record of that, in the
-- sink that was named in between.
theorem run_reflects_last_load_forgotten :
    let content := Utf8.encodeString "\x7b\"api_url\":\"localhost\",\"api_token\":\"token\"\x7d"
    let start : Setup := ⟨.ofEnvironment (.fixed []), fun _ => .ok content, 0, fun _ => []⟩
    let transport : Transport Unit := ⟨fun _ => pure (.ok .null)⟩
    let steps : List Step := [.withPath "/c", .load 1, .withPath "", .withSink 1, .loadAdapter 2]
    (start.run transport (steps.take 2)).resolver.isValid = true ∧
      (start.run transport steps).resolver.config = .default ∧
      ((start.run transport steps).records 1).map (·.name) = ["config_load_failed"] := by
  intro content start transport steps
  have ⟨hv, _⟩ :=
    run_reflects_last_load transport (.fixed []) (fun _ => .ok content) 0 (fun _ => []) (steps.take 2)
  have ⟨_, _, hd, _⟩ :=
    run_reflects_last_load transport (.fixed []) (fun _ => .ok content) 0 (fun _ => []) steps
  have hs : Settings.load (fun _ => .ok content) "/c" =
      .ok { apiUrl := some "localhost", apiToken := some "token" } := by
    rw [Settings.load_of_content Settings.checkPath_c rfl (by decide +kernel) (by decide +kernel)]
    decide +kernel
  have hl : ((start.step transport (.withPath "/c")).2.step transport (.load 1)).1.isSuccess = true := by
    rw [step_isSuccess_of_isLoad rfl]
    exact isOk_iff.mpr ⟨_, readConfig_eq_ok_iff.mpr ⟨_, hs, rfl, by decide +kernel⟩⟩
  exact ⟨hv.mpr ⟨_, rfl, hl⟩, hd (by decide +kernel), by decide +kernel⟩

end Setup
end Host
end AccessControl
