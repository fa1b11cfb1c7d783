import AccessControl.Proofs.Literal
import AccessControl.Proofs.SettingsReader
import AccessControl.Proofs.Steps

namespace AccessControl

open Json

namespace SettingKey

def kind : SettingKey → Kind
  | timeoutSeconds | connectTimeoutSeconds | retryDelayMs => .natural Settings.limit64
  | retryCount => .natural Settings.limit32
  | validateSsl | enableDebugLogging | enableAccessLogging => .flag
  | apiUrl | apiToken | protectedSystemToken | tenant | assetAttribute | caBundlePath | userAgent => .text

-- The reader of a value that is not null.
def item : (key : SettingKey) → Bytes → Read key.kind.Value
  | timeoutSeconds | connectTimeoutSeconds | retryDelayMs => readNatural Settings.limit64 .natural64
  | retryCount => readNatural Settings.limit32 .natural32
  | validateSsl | enableDebugLogging | enableAccessLogging => readFlag
  | apiUrl | apiToken | protectedSystemToken | tenant | assetAttribute | userAgent => readText .text
  | caBundlePath => readText .path

theorem reads_item (key : SettingKey) : Reads key.item key.kind.Means := by
  cases key
  case timeoutSeconds | connectTimeoutSeconds | retryDelayMs => exact reads_readNatural (Nat.le_refl _) _
  case retryCount => exact reads_readNatural (by decide) _
  case validateSsl | enableDebugLogging | enableAccessLogging => exact reads_readFlag
  all_goals exact reads_readText _

theorem ofName?_eq_some_iff {name : String} {key : SettingKey} : ofName? name = some key ↔ name = key.name := by
  constructor
  case mp =>
    intro h
    rw [ofName?] at h
    have hb := List.find?_some h
    exact (beq_iff_eq.mp hb).symm
  case mpr =>
    intro h
    rw [h, ofName?_name]

end SettingKey

namespace Settings

def get (s : Settings) : (key : SettingKey) → Option key.kind.Value
  | .apiUrl => s.apiUrl
  | .apiToken => s.apiToken
  | .protectedSystemToken => s.protectedSystemToken
  | .tenant => s.tenant
  | .assetAttribute => s.assetAttribute
  | .timeoutSeconds => s.timeoutSeconds
  | .connectTimeoutSeconds => s.connectTimeoutSeconds
  | .retryCount => s.retryCount
  | .retryDelayMs => s.retryDelayMs
  | .validateSsl => s.validateSsl
  | .caBundlePath => s.caBundlePath
  | .userAgent => s.userAgent
  | .enableDebugLogging => s.enableDebugLogging
  | .enableAccessLogging => s.enableAccessLogging

def set (s : Settings) : (key : SettingKey) → Option key.kind.Value → Settings
  | .apiUrl, v => { s with apiUrl := v }
  | .apiToken, v => { s with apiToken := v }
  | .protectedSystemToken, v => { s with protectedSystemToken := v }
  | .tenant, v => { s with tenant := v }
  | .assetAttribute, v => { s with assetAttribute := v }
  | .timeoutSeconds, v => { s with timeoutSeconds := v }
  | .connectTimeoutSeconds, v => { s with connectTimeoutSeconds := v }
  | .retryCount, v => { s with retryCount := v }
  | .retryDelayMs, v => { s with retryDelayMs := v }
  | .validateSsl, v => { s with validateSsl := v }
  | .caBundlePath, v => { s with caBundlePath := v }
  | .userAgent, v => { s with userAgent := v }
  | .enableDebugLogging, v => { s with enableDebugLogging := v }
  | .enableAccessLogging, v => { s with enableAccessLogging := v }

section

variable {s s' t : Settings} {key key' : SettingKey} {seen : List SettingKey} {ps : List (SettingKey × Bytes)}

@[simp]
theorem get_set (v : Option key.kind.Value) : (s.set key v).get key = v := by
  cases key <;> rfl

theorem get_set_ne (h : key ≠ key') (v : Option key.kind.Value) : (s.set key v).get key' = s.get key' := by
  cases key <;> cases key' <;> first | rfl | contradiction

@[simp]
theorem get_empty (key : SettingKey) : ({} : Settings).get key = none := by
  cases key <;> rfl

theorem ext_get (h : ∀ key, s.get key = t.get key) : s = t := by
  cases s
  cases t
  simp only [Settings.mk.injEq]
  exact ⟨h .apiUrl, h .apiToken, h .protectedSystemToken, h .tenant, h .assetAttribute, h .timeoutSeconds,
    h .connectTimeoutSeconds, h .retryCount, h .retryDelayMs, h .validateSsl, h .caBundlePath, h .userAgent,
    h .enableDebugLogging, h .enableAccessLogging⟩

theorem readSetting_eq (s : Settings) (key : SettingKey) (bytes : Bytes) :
    s.readSetting key bytes = (readOptional key.item bytes).map fun (v, r) => (s.set key v, r) := by
  cases key <;> rfl

-- The value of a setting is read as a whole, and reading goes on behind it.
theorem readSetting_bind {u g rest : Bytes} (hu : ValueText u) (hg : IsGap g) (hr : EndsNumber rest)
    {f : Settings × Bytes → Read Settings} {x : Settings × Bytes} :
    (s.readSetting key (g ++ (u ++ rest))).bind f = .ok x ↔
      ∃ v, key.kind.Gives u v ∧ f (s.set key v, rest) = .ok x := by
  have hi := Kind.reads_optional key.reads_item
  rw [readSetting_eq]
  constructor
  case mp =>
    intro h
    cases hx : readOptional key.item (g ++ (u ++ rest)) <;> rw [hx] at h
    case error => contradiction
    case ok y =>
      have ⟨hq, hv⟩ := (hi.eq_ok_iff hu hg hr).mp hx
      exact ⟨y.1, hv, hq ▸ h⟩
  case mpr =>
    intro ⟨v, hv, h⟩
    rw [hi.brings hv hg hr]
    exact h

theorem entryText_of_readSetting {w r : Bytes} (h : s.readSetting key w = .ok (s', r)) :
    ∃ u, EntryText .list u ∧ w = u ++ r := by
  rw [readSetting_eq] at h
  cases hx : readOptional key.item w <;> rw [hx] at h <;> cases h
  exact (Kind.reads_optional key.reads_item).entryText hx

theorem ofText_eq_ok_iff {text : Bytes} : ofText text = .ok s ↔ ∃ r, readFront text = .ok (s, r) ∧ IsGap r := by
  rw [ofText_eq]
  constructor
  case mp =>
    intro h
    cases hx : readFront text <;> rw [hx] at h
    case error => contradiction
    case ok x =>
      cases hr : readEnd x.2 <;> simp only [Except.bind, hr] at h <;> cases h
      exact ⟨x.2, rfl, readEnd_eq_ok_iff.mp hr⟩
  case mpr =>
    intro ⟨r, hx, hr⟩
    rw [hx]
    simp only [Except.bind, readEnd_eq_ok_iff.mpr hr]
    rfl

-- Settings are set one by one, each of them once.
inductive Assigns : List SettingKey → Settings → List (SettingKey × Bytes) → Settings → Prop
  | nil {seen : List SettingKey} {s : Settings} : Assigns seen s [] s
  | cons {seen : List SettingKey} {s s' : Settings} {key : SettingKey} {w : Bytes} {v : Option key.kind.Value}
    {ps : List (SettingKey × Bytes)} (hs : key ∉ seen) (hv : key.kind.Gives w v)
    (h : Assigns (key :: seen) (s.set key v) ps s') : Assigns seen s ((key, w) :: ps) s'

@[simp]
theorem assigns_nil_iff : Assigns seen s [] s' ↔ s' = s := by
  constructor
  case mp =>
    intro h
    cases h
    rfl
  case mpr =>
    intro h
    exact h ▸ .nil

-- No key comes twice, or has come before.
structure Once (seen : List SettingKey) (ps : List (SettingKey × Bytes)) : Prop where
  nodup : (ps.map Prod.fst).Nodup
  fresh : ∀ p ∈ ps, p.1 ∉ seen

-- Settings have what is given, and for the rest are what they were.
structure Fills (s : Settings) (ps : List (SettingKey × Bytes)) (s' : Settings) : Prop where
  given : ∀ p ∈ ps, p.1.kind.Gives p.2 (s'.get p.1)
  kept : ∀ key, key ∉ ps.map Prod.fst → s'.get key = s.get key

theorem once_cons_iff {w : Bytes} :
    Once seen ((key, w) :: ps) ↔ key ∉ seen ∧ Once (key :: seen) ps := by
  constructor
  case mp =>
    intro ⟨hn, hf⟩
    have ⟨hk, hp⟩ := List.forall_mem_cons.mp hf
    have ⟨hm, hn⟩ := List.nodup_cons.mp hn
    refine ⟨hk, hn, fun p h => List.not_mem_cons_of_ne_of_not_mem ?_ (hp p h)⟩
    exact fun he => hm (List.mem_map.mpr ⟨p, h, he⟩)
  case mpr =>
    intro ⟨hk, hn, hf⟩
    refine ⟨List.nodup_cons.mpr ⟨?_, hn⟩, List.forall_mem_cons.mpr ⟨hk, fun p h => ?_⟩⟩
    · intro hm
      have ⟨p, hp, he⟩ := List.mem_map.mp hm
      exact hf p hp (he ▸ List.mem_cons_self)
    · exact fun hs => hf p h (List.mem_cons_of_mem key hs)

theorem Once.not_mem (h : Once (key :: seen) ps) : key ∉ ps.map Prod.fst := by
  intro hm
  have ⟨p, hp, he⟩ := List.mem_map.mp hm
  exact h.fresh p hp (he ▸ List.mem_cons_self)

theorem Assigns.once (h : Assigns seen s ps s') : Once seen ps := by
  induction h
  case nil => exact ⟨List.nodup_nil, nofun⟩
  case cons hs _ _ hi => exact once_cons_iff.mpr ⟨hs, hi⟩

-- By induction on the row: what is set first is not set again.
theorem Assigns.fills (h : Assigns seen s ps s') : Fills s ps s' := by
  induction h
  case nil => exact ⟨nofun, fun _ _ => rfl⟩
  case cons key w v ps hs hv h hi =>
    refine ⟨List.forall_mem_cons.mpr ⟨?_, hi.given⟩, fun k hk => ?_⟩
    · rw [hi.kept key h.once.not_mem, get_set]
      exact hv
    · have ⟨hne, hk⟩ := List.ne_and_not_mem_of_not_mem_cons hk
      rw [hi.kept k hk, get_set_ne (Ne.symm hne)]

theorem Once.assigns (h : Once seen ps) (hf : Fills s ps s') : Assigns seen s ps s' := by
  induction ps generalizing seen s
  case nil =>
    have he : s = s' := ext_get fun key => (hf.kept key List.not_mem_nil).symm
    exact he ▸ .nil
  case cons p ps hi =>
    have ⟨hk, ho⟩ := once_cons_iff.mp h
    have ⟨hv, hg⟩ := List.forall_mem_cons.mp hf.given
    refine .cons hk hv (hi ho ⟨hg, fun key hm => ?_⟩)
    by_cases he : p.1 = key
    case pos =>
      subst he
      rw [get_set]
    case neg => rw [get_set_ne he, hf.kept key (List.not_mem_cons_of_ne_of_not_mem (Ne.symm he) hm)]

theorem assigns_iff : Assigns seen s ps s' ↔ Once seen ps ∧ Fills s ps s' :=
  ⟨fun h => ⟨h.once, h.fills⟩, fun ⟨ho, hf⟩ => ho.assigns hf⟩

theorem exists_assigns_iff :
    (∃ s', Assigns seen s ps s') ↔ Once seen ps ∧ ∀ p ∈ ps, ∃ v, p.1.kind.Gives p.2 v := by
  constructor
  case mp =>
    intro ⟨s', h⟩
    exact ⟨h.once, fun p hp => ⟨_, h.fills.given p hp⟩⟩
  case mpr =>
    intro ⟨ho, hg⟩
    induction ps generalizing seen s
    case nil => exact ⟨s, .nil⟩
    case cons p ps hi =>
      have ⟨hk, ho⟩ := once_cons_iff.mp ho
      have ⟨⟨v, hv⟩, hg⟩ := List.forall_mem_cons.mp hg
      have ⟨s', hs⟩ := hi (s := s.set p.1 v) ho hg
      exact ⟨s', .cons hk hv hs⟩

end

end Settings

end AccessControl
