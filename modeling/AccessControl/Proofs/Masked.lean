import AccessControl.Proofs.SettingsReader
import AccessControl.Proofs.Twin

namespace AccessControl

open Json

namespace Settings

def maskToken (token : String) : String :=
  if token.isEmpty then "" else "*"

-- Tells of the token only whether there is one.
def masked (s : Settings) : Settings :=
  { s with
    apiToken := s.apiToken.map maskToken
    protectedSystemToken := s.protectedSystemToken.map maskToken }

end Settings

namespace TokenPlace

open Settings

variable {p : TokenPlace} {s₁ s₂ w w₁ w₂ : Bytes} {s t : Settings}

-- The settings so far differ in the token at most.
inductive SettingsRest (p : TokenPlace) (s₁ s₂ : Bytes) : Settings × Bytes → Settings × Bytes → Prop
  | intro {s t : Settings} {w₁ w₂ : Bytes} (hm : s.masked = t.masked) (h : p.Twin s₁ s₂ w₁ w₂) :
    SettingsRest p s₁ s₂ (s, w₁) (t, w₂)

theorem readSetting_alike (key : SettingKey) (hm : s.masked = t.masked) (h : p.Twin s₁ s₂ w₁ w₂) :
    Alike Eq (p.SettingsRest s₁ s₂) (s.readSetting key w₁) (t.readSetting key w₂) := by
  have text (expected : Expected) := readOptional_alike h (readText_alike expected h)
  have natural (limit : Nat) (expected : Expected) :=
    readOptional_alike h (readNatural_alike limit expected h)
  have flag := readOptional_alike h (readFlag_alike h)
  simp only [masked, Settings.mk.injEq] at hm
  cases key
  case apiUrl | apiToken | protectedSystemToken | tenant | assetAttribute | userAgent =>
    refine (text .text).map fun (.intro hr) => .intro ?_ hr
    simp only [masked, hm]
  case caBundlePath =>
    refine (text .path).map fun (.intro hr) => .intro ?_ hr
    simp only [masked, hm]
  case timeoutSeconds | connectTimeoutSeconds | retryDelayMs =>
    refine (natural limit64 .natural64).map fun (.intro hr) => .intro ?_ hr
    simp only [masked, hm]
  case retryCount =>
    refine (natural limit32 .natural32).map fun (.intro hr) => .intro ?_ hr
    simp only [masked, hm]
  case validateSsl | enableDebugLogging | enableAccessLogging =>
    refine flag.map fun (.intro hr) => .intro ?_ hr
    simp only [masked, hm]

theorem readItems_alike (first : Bool) (keys : List SettingKey) (hm : s.masked = t.masked)
    (h : p.Twin s₁ s₂ w₁ w₂) :
    Alike Eq (p.SettingsRest s₁ s₂) (Settings.readItems first s keys w₁)
      (Settings.readItems first t keys w₂) := by
  induction keys generalizing first s t w₁ w₂
  case nil => exact (readListEnd_alike h).map fun h => .intro hm h
  case cons key keys hi =>
    have hn := nextItem_alike first h
    rw [Settings.readItems, Settings.readItems]
    generalize nextItem first w₁ = x, nextItem first w₂ = y at hn ⊢
    cases hn
    case error e _ he => exact .error he
    case ok hn =>
      cases hn
      case stop h => exact .ok (.intro hm h)
      case entry x y h =>
        have hs := readSetting_alike key hm h
        dsimp only
        generalize s.readSetting key x = x, t.readSetting key y = y at hs ⊢
        cases hs
        case error he => exact .error he
        case ok hs =>
          cases hs
          case intro hm h => exact hi false hm h

-- Two tokens, or none, with the same after them.
inductive TokenRest : Option String × Bytes → Option String × Bytes → Prop
  | intro {v₁ v₂ : Option String} {w : Bytes} (h : v₁.map maskToken = v₂.map maskToken) :
    TokenRest (v₁, w) (v₂, w)

-- Two values that a reader passes over alike, and reads alike but for `E`.
structure Sealed (E : ReadError → ReadError → Prop) (s₁ s₂ : Bytes) : Prop where
  skip : ∀ fuel stack, skipFrom fuel .value stack s₁ = skipFrom fuel .value stack s₂
  read : Alike E TokenRest (readOptional (readText .text) s₁) (readOptional (readText .text) s₂)
  refl : ∀ e, E e e

section Members

variable {E : ReadError → ReadError → Prop} (hs : Sealed E s₁ s₂)
include hs

theorem Sealed.weaken {R : α → β → Prop} {x : Except ReadError α} {y : Except ReadError β} :
    Alike Eq R x y → Alike E R x y
  | .error he => .error (he ▸ hs.refl _)
  | .ok hr => .ok hr

theorem readSetting_key (hm : s.masked = t.masked) :
    Alike E (p.SettingsRest s₁ s₂) (s.readSetting p.setting s₁) (t.readSetting p.setting s₂) := by
  simp only [masked, Settings.mk.injEq] at hm
  rcases p.isToken with hk | hk <;> rw [hk]
  all_goals
    refine hs.read.map fun (.intro hv) => .intro ?_ .same
    simp only [masked, hm, hv]

-- One member from its colon on, whose key is the same.
theorem readMember_key (length : Nat) (hm : s.masked = t.masked) :
    Alike E (p.SettingsRest s₁ s₂) (s.readMember length (some p.setting) (p.gap₁ ++ 0x3A :: s₁))
      (t.readMember length (some p.setting) (p.gap₁ ++ 0x3A :: s₂)) := by
  rw [Settings.readMember, Settings.readMember, readColon_key, readColon_key]
  exact readSetting_key hs hm

theorem readMember_same (length : Nat) (key : Option SettingKey) (hm : s.masked = t.masked) :
    Alike E (p.SettingsRest s₁ s₂) (s.readMember length key w) (t.readMember length key w) := by
  rw [Settings.readMember, Settings.readMember]
  cases readColon w
  case error e => exact .error (hs.refl e)
  case ok r =>
    cases key
    case some k => exact hs.weaken <| readSetting_alike k hm .same
    case none =>
      refine hs.weaken <| Alike.map (fun h => .intro hm h) ?_
      exact .refl (fun _ => .same) _

theorem readMember_ahead (length : Nat) (key : Option SettingKey) (hm : s.masked = t.masked)
    (h : p.Leads w) :
    Alike E (p.SettingsRest s₁ s₂) (s.readMember length key (w ++ s₁))
      (t.readMember length key (w ++ s₂)) := by
  have hc : Alike Eq _ (readColon (w ++ s₁)) (readColon (w ++ s₂)) := readColon_alike h
  rw [Settings.readMember, Settings.readMember]
  generalize readColon (w ++ s₁) = x, readColon (w ++ s₂) = y at hc ⊢
  cases hc
  case error he => exact .error (he ▸ hs.refl _)
  case ok h =>
    obtain ⟨r, h, rfl, rfl⟩ := h
    cases key
    case some k => exact hs.weaken <| readSetting_alike k hm (.ahead h)
    case none =>
      refine hs.weaken <| Alike.map (fun h => .intro hm h) ?_
      exact skipFrom_alike hs.skip _ _ _ _ _ (.ahead h)

end Members

section Run

variable {E : ReadError → ReadError → Prop} (hs : Sealed E s₁ s₂) (length : Nat)
include hs

section Step

variable {fuel : Nat}
  (hi : ∀ seen first s t w₁ w₂, s.masked = t.masked → p.Twin s₁ s₂ w₁ w₂ →
    Alike E (p.SettingsRest s₁ s₂) (Settings.readMembers length seen first s fuel w₁)
      (Settings.readMembers length seen first t fuel w₂))
include hi

theorem readNamed_alike (seen : List SettingKey) (name : String)
    (hm : Alike E (p.SettingsRest s₁ s₂) (s.readMember length (SettingKey.ofName? name) w₁)
      (t.readMember length (SettingKey.ofName? name) w₂)) :
    Alike E (p.SettingsRest s₁ s₂) (readNamed length seen fuel s name w₁)
      (readNamed length seen fuel t name w₂) := by
  rw [readNamed, readNamed]
  split_ifs
  · exact .error (hs.refl _)
  · refine hm.bind fun _ _ h => ?_
    cases h
    case intro hm h => exact hi _ _ _ _ _ _ hm h

theorem readEntry_alike (seen : List SettingKey) (hm : s.masked = t.masked)
    (h : p.Inside s₁ s₂ w₁ w₂) :
    Alike E (p.SettingsRest s₁ s₂)
      ((readString w₁).bind fun (name, rest) => readNamed length seen fuel s name rest)
      ((readString w₂).bind fun (name, rest) => readNamed length seen fuel t name rest) := by
  cases h
  case same =>
    cases readString w₁
    case error e => exact .error (hs.refl e)
    case ok v => exact readNamed_alike hs length hi seen v.1 (readMember_same hs length _ hm)
  case start h =>
    cases h
    case key =>
      rw [readString_key, readString_key]
      refine readNamed_alike hs length hi seen p.setting.name ?_
      rw [SettingKey.ofName?_name]
      exact readMember_key hs length hm
    case byte hb _ => exact absurd rfl hb
    case string h hc =>
      rcases readString_leads hc h with ⟨e, he⟩ | ⟨v, hv⟩
      · rw [he, he]
        exact .error (hs.refl e)
      · rw [hv, hv]
        exact readNamed_alike hs length hi seen v (readMember_ahead hs length _ hm h)

end Step

theorem readMembers_alike (fuel : Nat) (seen : List SettingKey) (first : Bool) (s t : Settings)
    (w₁ w₂ : Bytes) (hm : s.masked = t.masked) (h : p.Twin s₁ s₂ w₁ w₂) :
    Alike E (p.SettingsRest s₁ s₂) (Settings.readMembers length seen first s fuel w₁)
      (Settings.readMembers length seen first t fuel w₂) := by
  induction fuel generalizing seen first s t w₁ w₂
  case zero => exact .error (hs.refl _)
  case succ fuel hi =>
    rw [readMembers_eq, readMembers_eq]
    refine (hs.weaken (nextKey_alike first h)).bind fun _ _ h => ?_
    cases h
    case stop h => exact .ok (.intro hm h)
    case entry h => exact readEntry_alike hs length hi seen hm h

theorem readFront_alike (h : p.Leads w) (hl : (w ++ s₁).length = (w ++ s₂).length) :
    Alike E (p.SettingsRest s₁ s₂) (readFront (w ++ s₁)) (readFront (w ++ s₂)) := by
  have ⟨b, r, hb, he⟩ := h.start
  rw [readFront, readFront, he, he, hl, mismatch_twin .settings (.ahead h)]
  dsimp only
  split_ifs with ho hl
  · exact readMembers_alike hs _ _ _ _ _ _ _ _ rfl (.ahead (hb.rest (ho ▸ by decide)))
  · exact hs.weaken <| readItems_alike _ _ rfl (.ahead (hb.rest (hl ▸ by decide)))
  · exact .error (hs.refl _)

theorem ofText_alike (h : p.Leads w) (hl : s₁.length = s₂.length) :
    Alike E (fun s t => s.masked = t.masked) (Settings.ofText (w ++ s₁)) (Settings.ofText (w ++ s₂)) := by
  rw [ofText_eq, ofText_eq]
  refine (readFront_alike hs h (by simp [hl])).bind fun (s, r) (t, _) (.intro hm hr) => ?_
  dsimp only
  rw [readEnd_alike hr]
  cases readEnd _
  case error e => exact .error (hs.refl e)
  case ok => exact .ok hm

end Run

end TokenPlace

end AccessControl
