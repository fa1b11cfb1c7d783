import AccessControl.Config.Settings
import Mathlib.Tactic.SplitIfs

namespace AccessControl

open Json (Read nextKey nextItem readString readEnd skipBlanks mismatch)

theorem SettingKey.ofName?_name (key : SettingKey) : ofName? key.name = some key := by
  cases key <;> rfl

namespace Settings

-- What follows once the name of a member is read.
def readNamed (length : Nat) (seen : List SettingKey) (fuel : Nat) (s : Settings) (name : String)
    (rest : Bytes) : Read Settings :=
  if (SettingKey.ofName? name).any (seen.contains ·) then .error (.duplicateKey name)
  else
    (s.readMember length (SettingKey.ofName? name) rest).bind fun (s, rest) =>
      readMembers length ((SettingKey.ofName? name).toList ++ seen) false s fuel rest

theorem readMembers_eq (length : Nat) (seen : List SettingKey) (first : Bool) (s : Settings) (fuel : Nat)
    (bytes : Bytes) :
    readMembers length seen first s (fuel + 1) bytes =
      (nextKey first bytes).bind fun
        | .stop rest => .ok (s, rest)
        | .entry bytes =>
          (readString bytes).bind fun (name, rest) => readNamed length seen fuel s name rest := by
  rw [readMembers]
  cases nextKey first bytes
  case error => rfl
  case ok next =>
    cases next
    case stop => rfl
    case entry bytes =>
      dsimp only [Except.bind]
      cases readString bytes
      case error => rfl
      case ok v =>
        dsimp only
        rw [readNamed]
        split_ifs
        · rfl
        · cases s.readMember length (SettingKey.ofName? v.1) v.2 <;> rfl

theorem readItems_eq (first : Bool) (s : Settings) (key : SettingKey) (keys : List SettingKey) (bytes : Bytes) :
    readItems first s (key :: keys) bytes =
      (nextItem first bytes).bind fun
        | .stop rest => .ok (s, rest)
        | .entry bytes => (s.readSetting key bytes).bind fun (s, rest) => readItems false s keys rest := by
  rw [readItems]
  cases nextItem first bytes
  case error => rfl
  case ok next =>
    cases next
    case stop => rfl
    case entry bytes =>
      dsimp only [Except.bind]
      cases s.readSetting key bytes <;> rfl

-- The settings at the front of a text.
def readFront (text : Bytes) : Read Settings :=
  match skipBlanks text with
  | [] => .error .eofValue
  | b :: rest =>
    if b = 0x7B then readMembers text.length [] true {} (text.length + 1) rest
    else if b = 0x5B then readItems true {} SettingKey.all rest
    else .error (mismatch .settings text)

theorem ofText_eq (text : Bytes) :
    ofText text = (readFront text).bind fun (s, rest) => (readEnd rest).map fun _ => s := by
  change (readFront text).bind (fun (s, rest) => (readEnd rest).bind fun _ => .ok s) = _
  cases readFront text
  case error => rfl
  case ok v => cases h : readEnd v.2 <;> simp [Except.bind, h, Except.map]

end Settings

end AccessControl
