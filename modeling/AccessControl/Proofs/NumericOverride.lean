import AccessControl.Proofs.Assigned
import AccessControl.Proofs.DecimalText
import AccessControl.Proofs.Precedence
import AccessControl.Proofs.Retry
import Mathlib

namespace AccessControl

open Json (Read)

namespace Settings

variable {s s' : Settings} {key : SettingKey} {keys seen : List SettingKey} {first : Bool} {length fuel : Nat}
  {w r : Bytes}

-- What stands under each key is what some literal of its kind gives, or nothing.
def Spelled (s : Settings) : Prop :=
  ∀ key : SettingKey, ∃ u, key.kind.Gives u (s.get key)

theorem spelled_empty : Spelled {} := by
  intro key
  rw [get_empty]
  exact ⟨Json.nullWord, rfl⟩

theorem Spelled.set {v : Option key.kind.Value} {u : Bytes} (h : s.Spelled) (hv : key.kind.Gives u v) :
    (s.set key v).Spelled := by
  intro key'
  by_cases hk : key = key'
  case pos =>
    subst hk
    exact ⟨u, by rwa [get_set]⟩
  case neg => rw [get_set_ne hk]; exact h key'

theorem Spelled.readSetting (h : s.Spelled) (hr : s.readSetting key w = .ok (s', r)) : s'.Spelled := by
  rw [readSetting_eq] at hr
  cases hx : Json.readOptional key.item w <;> rw [hx] at hr <;> cases hr
  obtain ⟨_, _, u, _, hv, _⟩ := (Json.Kind.reads_optional key.reads_item).literal hx
  exact h.set hv

theorem Spelled.readMember {key : Option SettingKey} (h : s.Spelled)
    (hr : s.readMember length key w = .ok (s', r)) : s'.Spelled := by
  unfold Settings.readMember at hr
  cases hc : Json.readColon w <;> simp only [hc] at hr
  case error => contradiction
  case ok w =>
    cases key
    case some key => exact h.readSetting hr
    case none =>
      cases hs : Json.skipValue length w <;> simp only [hs] at hr <;> cases hr
      exact h

-- By induction on the members: each sets one key, or none.
theorem Spelled.readMembers (h : s.Spelled) (hr : readMembers length seen first s fuel w = .ok (s', r)) :
    s'.Spelled := by
  induction fuel generalizing seen first s w
  case zero => contradiction
  case succ fuel hi =>
    rw [readMembers_eq] at hr
    cases hk : Json.nextKey first w <;> rw [hk] at hr
    case error => contradiction
    case ok next =>
      cases next
      case stop =>
        cases hr
        exact h
      case entry w =>
        simp only [Except.bind] at hr
        cases hn : Json.readString w <;> simp only [hn] at hr
        case error => contradiction
        case ok named =>
          unfold readNamed at hr
          split at hr
          case isTrue => contradiction
          case isFalse =>
            cases hm : s.readMember length (SettingKey.ofName? named.1) named.2 <;> rw [hm] at hr
            case error => contradiction
            case ok x => exact hi (h.readMember hm) hr

theorem Spelled.readItems (h : s.Spelled) (hr : readItems first s keys w = .ok (s', r)) : s'.Spelled := by
  induction keys generalizing first s w
  case nil =>
    unfold Settings.readItems at hr
    cases he : Json.readListEnd w <;> rw [he] at hr <;> cases hr
    exact h
  case cons key keys hi =>
    rw [readItems_eq] at hr
    cases hn : Json.nextItem first w <;> rw [hn] at hr
    case error => contradiction
    case ok next =>
      cases next
      case stop =>
        cases hr
        exact h
      case entry w =>
        simp only [Except.bind] at hr
        cases hs : s.readSetting key w <;> simp only [hs] at hr
        case error => contradiction
        case ok x => exact hi (h.readSetting hs) hr

theorem spelled_of_ofText {text : Bytes} (h : ofText text = .ok s) : s.Spelled := by
  obtain ⟨r, hf, _⟩ := ofText_eq_ok_iff.mp h
  unfold readFront at hf
  split at hf
  case h_1 => contradiction
  case h_2 =>
    split_ifs at hf
    · exact spelled_empty.readMembers hf
    · exact spelled_empty.readItems hf

end Settings

-- The numbers that a variable can replace.
inductive Quantity
  | timeout
  | connectTimeout
  | retryDelay
  | retryCount
deriving DecidableEq, Repr

namespace Quantity

def variableName : Quantity → String
  | timeout => "SGNL_TIMEOUT"
  | connectTimeout => "SGNL_CONNECT_TIMEOUT"
  | retryDelay => "SGNL_RETRY_DELAY"
  | retryCount => "SGNL_RETRY_COUNT"

-- The first number that is too large.
def limit : Quantity → Nat
  | retryCount => 2 ^ 32
  | _ => 2 ^ 64

-- What one of the quantity is: a second, a millisecond or a retry.
def unit : Quantity → Nat
  | timeout | connectTimeout => 1000
  | retryDelay | retryCount => 1

def of (c : Config) : Quantity → Nat
  | timeout => c.timeout
  | connectTimeout => c.connectTimeout
  | retryDelay => c.retryDelay
  | retryCount => c.retryCount.toNat

def inFile (s : Settings) : Quantity → Option Nat
  | timeout => s.timeoutSeconds
  | connectTimeout => s.connectTimeoutSeconds
  | retryDelay => s.retryDelayMs
  | retryCount => s.retryCount

def usual : Quantity → Nat
  | timeout => 30
  | connectTimeout => 10
  | retryDelay => 1000
  | retryCount => 2

-- The text is a numeral for a number in range.
def IsGiven (q : Quantity) (text : String) : Prop :=
  ∃ w : Text.Numeral, w.text = text ∧ w.value < q.limit

variable {q : Quantity} {s : Settings} {env : Environment} {n : Nat} {text : String}

theorem unit_pos (q : Quantity) : 0 < q.unit := by
  cases q <;> decide

theorem usual_lt (q : Quantity) : q.usual < q.limit := by
  cases q <;> decide

theorem lt_limit_of_inFile (h : s.Spelled) (hn : q.inFile s = some n) : n < q.limit := by
  have lt {limit : Nat} (hg : ∃ u, (Json.Kind.natural limit).Gives u (q.inFile s)) : n < limit := by
    obtain ⟨u, hg⟩ := hg
    rw [hn] at hg
    exact hg.right
  cases q
  case timeout => exact lt (h .timeoutSeconds)
  case connectTimeout => exact lt (h .connectTimeoutSeconds)
  case retryDelay => exact lt (h .retryDelayMs)
  case retryCount => exact lt (h .retryCount)

def override? (env : Environment) (q : Quantity) : Option Nat :=
  (env.text? q.variableName).bind (Config.Field.number? q.limit)

theorem override?_lt (h : q.override? env = some n) : n < q.limit := by
  obtain ⟨text, _, hn⟩ := Option.bind_eq_some_iff.mp h
  exact (Text.Numeral.readNatural?_trimChars_eq_some_iff.mp hn).left

def settled (env : Environment) (s : Settings) (q : Quantity) : Nat :=
  ((q.override? env).or (q.inFile s)).getD q.usual

theorem settled_lt (h : s.Spelled) : q.settled env s < q.limit := by
  unfold settled
  cases ho : q.override? env
  case some n => exact override?_lt ho
  case none =>
    cases hf : q.inFile s
    case some n => exact lt_limit_of_inFile h hf
    case none => exact q.usual_lt

-- A number is settled before it is counted in another unit, or after.
theorem settled_map {α : Type} (f : Nat → α) (env : Environment) (name : String) (limit : Nat) (file : Option Nat)
    (usual : Nat) :
    (((env.text? name).bind fun text => (Config.Field.number? limit text).map f).or (file.map f)).getD (f usual) =
      f ((((env.text? name).bind (Config.Field.number? limit)).or file).getD usual) := by
  have ho (o : Option Nat) : ((o.map f).or (file.map f)).getD (f usual) = f ((o.or file).getD usual) := by
    cases o <;> cases file <;> rfl
  rw [← ho, Option.map_bind]
  rfl

-- The variable goes before the file, and the file before what is usual; nothing is lost on the way.
theorem of_ofSettings (h : s.Spelled) : q.of (Config.ofSettings s env) = q.settled env s * q.unit := by
  cases q
  case timeout =>
    rw [unit]
    refine .trans ?_ (settled_map (· * 1000) env "SGNL_TIMEOUT" (2 ^ 64) s.timeoutSeconds 30)
    exact Config.Field.read_ofSettings (f := .timeout)
  case connectTimeout =>
    rw [unit]
    refine .trans ?_ (settled_map (· * 1000) env "SGNL_CONNECT_TIMEOUT" (2 ^ 64) s.connectTimeoutSeconds 10)
    exact Config.Field.read_ofSettings (f := .connectTimeout)
  case retryDelay =>
    rw [unit, Nat.mul_one]
    exact Config.Field.read_ofSettings (f := .retryDelay)
  case retryCount =>
    have hr : (Config.ofSettings s env).retryCount = UInt32.ofNat (retryCount.settled env s) := by
      refine .trans ?_ (settled_map UInt32.ofNat env "SGNL_RETRY_COUNT" (2 ^ 32) s.retryCount 2)
      exact Config.Field.read_ofSettings (f := .retryCount)
    rw [of, hr, unit, Nat.mul_one]
    exact UInt32.toNat_ofNat_of_lt (settled_lt h)

-- An empty variable is none, and an empty text is no numeral.
theorem override?_eq (hv : env.entries.lookup q.variableName = some text) :
    q.override? env = Config.Field.number? q.limit text := by
  by_cases ht : text = ""
  case pos =>
    subst ht
    have he : env.text? q.variableName = none :=
      Option.eq_none_iff_forall_ne_some.mpr fun text ht => by
        obtain ⟨hl, hn⟩ := Environment.text?_eq_some_iff.mp ht
        exact hn (Option.some.inj (hl.symm.trans hv))
    have hn : Config.Field.number? q.limit "" = none := by cases q <;> rfl
    rw [override?, he, hn, Option.bind_none]
  case neg => rw [override?, Environment.text?_eq_some_iff.mpr ⟨hv, ht⟩, Option.bind_some]

theorem number?_of_not_isGiven (h : ¬q.IsGiven text) : Config.Field.number? q.limit text = none := by
  refine Option.eq_none_iff_forall_ne_some.mpr fun n hn => h ?_
  obtain ⟨hl, w, ht, rfl⟩ := Config.Field.number?_eq_some_iff.mp hn
  exact ⟨w, ht, hl⟩

theorem not_isGiven (h : Text.isBlankText text = true ∨ '-' ∈ text.toList ∨ '.' ∈ text.toList ∨
    ∃ w : Text.Numeral, w.text = text ∧ q.limit ≤ w.value) : ¬q.IsGiven text := by
  rintro ⟨w, rfl, hl⟩
  rcases h with h | h | h | ⟨w', ht, hl'⟩
  · rw [w.isBlankText_text] at h
    contradiction
  · exact absurd (w.mem_text h) (by decide)
  · exact absurd (w.mem_text h) (by decide)
  · rw [Text.Numeral.value_unique ht] at hl'
    exact Nat.not_lt.mpr hl' hl

section

variable (hv : env.entries.lookup q.variableName = some text)

include hv

theorem settled_of_numeral {w : Text.Numeral} (ht : w.text = text) (hl : w.value < q.limit) :
    q.settled env s = w.value := by
  rw [settled, override?_eq hv, Config.Field.number?_eq_some_iff.mpr ⟨hl, w, ht, rfl⟩, Option.some_or, Option.getD_some]

theorem settled_of_not_isGiven (h : ¬q.IsGiven text) : q.settled env s = (q.inFile s).getD q.usual := by
  rw [settled, override?_eq hv, number?_of_not_isGiven h, Option.none_or]

end

-- A file that gives all of them the same small number.
theorem exists_file (n : Nat) (hn : n = 1 ∨ n = 2) :
    ∃ text s, Settings.ofText text = .ok s ∧ ∀ q : Quantity, q.inFile s = some n := by
  have all {s : Settings} (hs : s.timeoutSeconds = some n ∧ s.connectTimeoutSeconds = some n ∧
      s.retryDelayMs = some n ∧ s.retryCount = some n) (q : Quantity) : q.inFile s = some n := by
    obtain ⟨ht, hc, hd, hr⟩ := hs
    cases q <;> assumption
  rcases hn with rfl | rfl
  · exact ⟨Utf8.encodeString "[null,null,null,null,null,1,1,1,1]",
      { timeoutSeconds := some 1, connectTimeoutSeconds := some 1, retryCount := some 1, retryDelayMs := some 1 },
      by decide +kernel, all ⟨rfl, rfl, rfl, rfl⟩⟩
  · exact ⟨Utf8.encodeString "[null,null,null,null,null,2,2,2,2]",
      { timeoutSeconds := some 2, connectTimeoutSeconds := some 2, retryCount := some 2, retryDelayMs := some 2 },
      by decide +kernel, all ⟨rfl, rfl, rfl, rfl⟩⟩

end Quantity

namespace Config

-- A variable that is a numeral for a number in range goes before every file, and no other one goes before any. The
-- number that holds is the one that was written.
theorem ofSettings_numbers {file : Bytes} {s : Settings} (loads : Settings.ofText file = .ok s) (env : Environment)
    (q : Quantity) (text : String) (given : env.entries.lookup q.variableName = some text) :
    let c := ofSettings s env
    ((∀ file' s', Settings.ofText file' = .ok s' → q.of (ofSettings s' env) = q.of c) ↔ q.IsGiven text) ∧
      (∀ w : Text.Numeral, w.text = text → w.value < q.limit → q.of c = w.value * q.unit) ∧
      (¬q.IsGiven text → q.of c = (q.inFile s).getD q.usual * q.unit) ∧
      (Text.isBlankText text = true ∨ '-' ∈ text.toList ∨ '.' ∈ text.toList ∨
        (∃ w : Text.Numeral, w.text = text ∧ q.limit ≤ w.value) → ¬q.IsGiven text) ∧
      (∀ n zeros before after, n < q.limit → (∀ c ∈ before, Text.isBlank c = true) →
        (∀ c ∈ after, Text.isBlank c = true) →
        text = String.ofList (before ++ (List.replicate zeros '0' ++ (toString n).toList ++ after)) →
        q.of c = n * q.unit) ∧
      (∃ n, n < q.limit ∧ q.of c = n * q.unit) ∧
      (RetryPolicy.ofConfig c).attempts = min (Quantity.retryCount.of c + 1) (2 ^ 32 - 1) ∧
      (RetryPolicy.ofConfig c).attempts ≠ 0 := by
  intro c
  have hs : s.Spelled := Settings.spelled_of_ofText loads
  have hc : q.of c = q.settled env s * q.unit := Quantity.of_ofSettings hs
  have numeral (w : Text.Numeral) (ht : w.text = text) (hl : w.value < q.limit) : q.of c = w.value * q.unit := by
    rw [hc, Quantity.settled_of_numeral given ht hl]
  have other (hn : ¬q.IsGiven text) : q.of c = (q.inFile s).getD q.usual * q.unit := by
    rw [hc, Quantity.settled_of_not_isGiven given hn]
  refine ⟨⟨?effective, ?heeded⟩, numeral, other, Quantity.not_isGiven, ?written,
    ⟨_, Quantity.settled_lt hs, hc⟩, rfl, Nat.ne_of_gt (RetryPolicy.attempts_pos _)⟩
  case effective =>
    -- where the text is not heeded, files with different numbers are told apart
    intro h
    by_contra hn
    have same (n : Nat) (h12 : n = 1 ∨ n = 2) : n * q.unit = q.of c := by
      obtain ⟨file', s', hf, hq⟩ := Quantity.exists_file n h12
      rw [← h file' s' hf, Quantity.of_ofSettings (Settings.spelled_of_ofText hf),
        Quantity.settled_of_not_isGiven given hn, hq, Option.getD_some]
    have h12 := (same 1 (.inl rfl)).trans (same 2 (.inr rfl)).symm
    have hu := q.unit_pos
    omega
  case heeded =>
    rintro ⟨w, ht, hl⟩ file' s' hf
    rw [Quantity.of_ofSettings (Settings.spelled_of_ofText hf), Quantity.settled_of_numeral given ht hl,
      numeral w ht hl]
  case written =>
    intro n zeros before after hl hb ha ht
    have hw : (Text.Numeral.written n zeros hb ha).text = text := by rw [ht, Text.Numeral.text_written]
    have hr := numeral (Text.Numeral.written n zeros hb ha) hw
    rw [Text.Numeral.value_written] at hr
    exact hr hl

-- The largest count of retries, after zeros and among blanks: the attempts are as many as 32 bits count.
theorem ofSettings_numbers_largest :
    let env : Environment := .fixed [("SGNL_RETRY_COUNT", " 004294967295\t")]
    let c := ofSettings { timeoutSeconds := some 7 } env
    Settings.ofText (Utf8.encodeString "[null,null,null,null,null,7]") = .ok { timeoutSeconds := some 7 } ∧
      env.entries.lookup Quantity.retryCount.variableName = some " 004294967295\t" ∧
      c.retryCount.toNat = 4294967295 ∧ (RetryPolicy.ofConfig c).attempts = 4294967295 := by
  intro env c
  have loads : Settings.ofText (Utf8.encodeString "[null,null,null,null,null,7]") = .ok { timeoutSeconds := some 7 } := by
    decide +kernel
  have given : env.entries.lookup Quantity.retryCount.variableName = some " 004294967295\t" := by decide +kernel
  obtain ⟨_, _, _, _, hw, _, ha, _⟩ := ofSettings_numbers loads env .retryCount " 004294967295\t" given
  have hr : c.retryCount.toNat = 4294967295 :=
    hw 4294967295 2 [' '] ['\t'] (by decide) (List.forall_mem_singleton.mpr rfl) (List.forall_mem_singleton.mpr rfl)
      (by decide +kernel)
  refine ⟨loads, given, hr, ?_⟩
  rw [ha, Quantity.of, hr]
  decide

example : (ofSettings {} (.fixed [("SGNL_TIMEOUT", "18446744073709551616")])).timeout = 30000 := by decide +kernel

end Config
end AccessControl
