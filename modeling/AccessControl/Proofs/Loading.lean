import AccessControl.Host.Adapter
import Mathlib

namespace AccessControl

instance decidableEqExcept [DecidableEq ε] [DecidableEq α] : DecidableEq (Except ε α)
  | .ok a, .ok b => decidable_of_iff (a = b) (by simp)
  | .error e, .error f => decidable_of_iff (e = f) (by simp)
  | .ok _, .error _ => .isFalse nofun
  | .error _, .ok _ => .isFalse nofun

theorem Settings.checkPath_c : checkPath "/c" = .ok () := by
  cbv

theorem Settings.load_of_content {file : Volume.Reader} {path : String} {content : Bytes}
    (hp : checkPath path = .ok ()) (hf : file path = .ok content) (hs : content.length ≤ maxFileSize)
    (hu : (Utf8.decode? content).isSome = true) :
    load file path = (ofText content).mapError .parse := by
  have hn : (Utf8.decode? content).isNone = false := by simpa using hu
  simp only [load, hp, hf, Nat.not_lt.mpr hs, hn, if_false, Bool.false_eq_true]
  cases ofText content <;> rfl

namespace Resolver

variable {r : Resolver} {file : Volume.Reader} {config : Config}

theorem readConfig_of_load {settings : Settings} (h : Settings.load file r.path = .ok settings) :
    r.readConfig file =
      (Config.ofSettings settings r.environment).validate.map fun _ =>
        Config.ofSettings settings r.environment := by
  rw [readConfig, h]
  rfl

theorem readConfig_of_load_error {e : ConfigError} (h : Settings.load file r.path = .error e) :
    r.readConfig file = .error e := by
  rw [readConfig, h]
  rfl

theorem isValid_of_readConfig (h : r.readConfig file = .ok config) : config.isValid = true := by
  cases hs : Settings.load file r.path
  case error e =>
    rw [readConfig_of_load_error hs] at h
    contradiction
  case ok settings =>
    rw [readConfig_of_load hs] at h
    cases hv : (Config.ofSettings settings r.environment).validate <;> rw [hv] at h
    case error e => contradiction
    case ok =>
      cases h
      exact Config.validate_eq_ok_iff.mp hv

-- A load that succeeds leaves no records, and keeps what it read.
theorem load_of_readConfig (time : Nat) (h : r.readConfig file = .ok config) :
    r.load file time = (true, [], { r with config, loaded := true }) := by
  rw [load, tryLoad, h]

-- One that fails leaves one record, and forgets.
theorem load_of_readConfig_error {e : ConfigError} (time : Nat) (h : r.readConfig file = .error e) :
    r.load file time = (false, [r.failureEvent time e], r.reset) := by
  rw [load, tryLoad, h]
  rfl

end Resolver

theorem Host.Adapter.ofClient_client {σ : Type} (adapter : Host.Adapter σ) :
    Host.Adapter.ofClient adapter.client = .ok adapter := by
  have hv : adapter.client.config.validate = .ok () := Config.validate_eq_ok_iff.mpr adapter.configured
  unfold ofClient
  split
  case h_1 => rfl
  case h_2 e he =>
    rw [hv] at he
    contradiction

end AccessControl
