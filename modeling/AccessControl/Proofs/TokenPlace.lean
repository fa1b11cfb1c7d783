import AccessControl.Config.Settings
import AccessControl.Proofs.Closing
import AccessControl.Proofs.Steady

namespace AccessControl

open Json

-- No string is open where the bytes end.
inductive Between : Bytes → Prop
  | nil : Between []
  | byte {b : UInt8} {w : Bytes} (hb : b ≠ 0x22) (h : Between w) : Between (b :: w)
  | string {w r : Bytes} (hc : afterClosing w = some r) (h : Between r) : Between (0x22 :: w)

-- A text that lacks the value after a key of the token. The key may be spelled with escapes.
structure TokenPlace where
  front : Bytes
  -- From inside of the quotes of the key to the last of them.
  key : Bytes
  gap₁ : Bytes
  gap₂ : Bytes
  back : Bytes
  setting : SettingKey
  between : Between front
  isToken : setting = .apiToken ∨ setting = .protectedSystemToken
  named : readString key = .ok (setting.name, [])
  blank₁ : ∀ b ∈ gap₁, isBlankByte b = true
  blank₂ : ∀ b ∈ gap₂, isBlankByte b = true

namespace TokenPlace

variable {p : TokenPlace} {b : UInt8} {w r : Bytes}

-- From inside of the quotes of the key to its colon.
def opening (p : TokenPlace) : Bytes := p.key ++ (p.gap₁ ++ [0x3A])

-- What follows the colon, when `literal` is the value.
def value (p : TokenPlace) (literal : Bytes) : Bytes := p.gap₂ ++ (literal ++ p.back)

-- The text with `literal` for the value.
def fill (p : TokenPlace) (literal : Bytes) : Bytes :=
  p.front ++ 0x22 :: p.opening ++ p.value literal

-- A reader that stands in front of these bytes, in no string, has the key before it.
inductive Leads (p : TokenPlace) : Bytes → Prop
  | key : Leads p (0x22 :: p.opening)
  | byte {b : UInt8} {w : Bytes} (hb : b ≠ 0x22) (h : Leads p w) : Leads p (b :: w)
  | string {w r : Bytes} (hc : afterClosing w = some r) (h : Leads p r) : Leads p (0x22 :: w)

theorem leads_of_between (h : Between w) : p.Leads (w ++ 0x22 :: p.opening) := by
  induction h
  case nil => exact .key
  case byte hb _ hi => exact .byte hb hi
  case string hc _ hi => exact .string (afterClosing_append _ hc) hi

theorem length_opening : 2 ≤ p.opening.length := by
  have hk : p.key ≠ [] := fun hk => by
    have := hk ▸ p.named
    contradiction
  have := List.length_pos_iff.mpr hk
  simp only [opening, List.length_append, List.length_cons, List.length_nil]
  omega

namespace Leads

theorem length (h : p.Leads w) : 3 ≤ w.length := by
  induction h
  case key => exact Nat.succ_le_succ length_opening
  case byte hi => exact Nat.le_succ_of_le hi
  case string hc _ hi => exact Nat.le_succ_of_le <| Nat.le_of_lt <| Nat.lt_of_le_of_lt hi <|
    length_lt_of_afterClosing hc

theorem quote_mem (h : p.Leads w) : 0x22 ∈ w := by
  induction h
  case byte hi => exact List.mem_cons_of_mem _ hi
  all_goals exact List.mem_cons_self

-- Bytes that are no quotes can be left behind.
theorem drop {u : Bytes} (h : p.Leads (u ++ r)) (hu : ∀ b ∈ u, b ≠ 0x22) : p.Leads r := by
  induction u
  case nil => exact h
  case cons b u hi =>
    have ⟨hb, hu⟩ := List.forall_mem_cons.mp hu
    rw [List.cons_append] at h
    generalize u ++ r = w at h hi
    cases h
    case byte h => exact hi h hu
    all_goals contradiction

end Leads

-- A byte that is not blank, met on the way to the key, and what comes after it up to the colon.
inductive Start (p : TokenPlace) : UInt8 → Bytes → Prop
  | key : Start p 0x22 p.opening
  | byte {b : UInt8} {w : Bytes} (hb : b ≠ 0x22) (h : p.Leads w) : Start p b w
  | string {w r : Bytes} (hc : afterClosing w = some r) (h : p.Leads r) : Start p 0x22 w

namespace Start

theorem leads : p.Start b w → p.Leads (b :: w)
  | .key => .key
  | .byte hb h => .byte hb h
  | .string hc h => .string hc h

theorem rest (hb : b ≠ 0x22) : p.Start b w → p.Leads w
  | .byte _ h => h
  | .key | .string .. => absurd rfl hb

end Start

theorem Leads.start (h : p.Leads w) : ∃ b r, p.Start b r ∧ ∀ q, skipBlanks (w ++ q) = b :: (r ++ q) := by
  induction h
  case key => exact ⟨_, _, .key, fun _ => rfl⟩
  case string hc h _ => exact ⟨_, _, .string hc h, fun _ => rfl⟩
  case byte b w hb h hi =>
    cases hs : isBlankByte b
    case false =>
      exact ⟨b, w, .byte hb h, fun _ => skipBlanks_cons hs⟩
    case true =>
      have ⟨c, r, hc, he⟩ := hi
      refine ⟨c, r, hc, fun q => ?_⟩
      rw [← he q, List.cons_append, skipBlanks, List.dropWhile_cons, hs]
      rfl

theorem readString_key (q : Bytes) :
    readString (p.opening ++ q) = .ok (p.setting.name, p.gap₁ ++ 0x3A :: q) := by
  rw [opening, List.append_assoc, readString_append _ p.named]
  simp

theorem skipString_key (q : Bytes) : skipString (p.opening ++ q) = .ok (p.gap₁ ++ 0x3A :: q) :=
  skipString_of_readStringFrom <| readString_key q

theorem readString_leads (hc : afterClosing w = some r) (h : p.Leads r) :
    (∃ e, ∀ q, readString (w ++ q) = .error e) ∨ ∃ v, ∀ q, readString (w ++ q) = .ok (v, r ++ q) := by
  have he : readString w ≠ .error .eofString := fun he =>
    Nat.not_lt.mpr h.length <| length_lt_of_eofString he hc
  have ha (q : Bytes) := readStringFrom_append q he
  cases hr : readString w
  case error e => exact .inl ⟨e, fun q => (ha q).trans (congrArg _ hr)⟩
  case ok v =>
    have hv := afterClosing_of_readStringFrom hr
    rw [hc] at hv
    cases hv
    exact .inr ⟨v.1, fun q => (ha q).trans (congrArg _ hr)⟩

theorem skipString_leads (hc : afterClosing w = some r) (h : p.Leads r) :
    (∃ e, ∀ q, skipString (w ++ q) = .error e) ∨ ∀ q, skipString (w ++ q) = .ok (r ++ q) := by
  have he : skipString w ≠ .error .eofString := fun he =>
    Nat.not_lt.mpr h.length <| length_lt_of_skipString_eof he hc
  have ha (q : Bytes) := skipString_append q he
  cases hr : skipString w
  case error e => exact .inl ⟨e, fun q => (ha q).trans (congrArg _ hr)⟩
  case ok v =>
    have hv := afterClosing_of_skipString hr
    rw [hc] at hv
    cases hv
    exact .inr fun q => (ha q).trans (congrArg _ hr)

end TokenPlace

end AccessControl
