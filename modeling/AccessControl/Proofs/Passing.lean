import AccessControl.Proofs.Grammar

namespace AccessControl.Json

open Utf8

section

variable {top : Bracket} {g w r u : Bytes} {b : UInt8}

-- What a reader does that passes over a text of this kind.
def Part.Passes : Part → Bytes → Prop
  | .value => IsValue
  | .entry top => IsEntry top

theorem isValue_nullWord : IsValue nullWord :=
  isValue_scalar ⟨by decide, by decide⟩ (by decide) (by decide) fun _ _ => rfl

theorem isValue_flagWord (b : Bool) : IsValue (flagWord b) := by
  cases b <;> exact isValue_scalar ⟨by decide, by decide⟩ (by decide) (by decide) fun _ _ => rfl

theorem StringText.isValue (h : StringText w) : IsValue (0x22 :: w) :=
  isValue_scalar ⟨by decide, by decide⟩ (by decide) (by decide) fun r _ => h.skipString_append r

-- Every text of the grammar is passed over, by induction on how the grammar has it.
theorem IsPart.passes {part : Part} (h : IsPart part w) : part.Passes w := by
  induction h
  case null => exact isValue_nullWord
  case flag b => exact isValue_flagWord b
  case number h => exact isValue_unsigned h.skipNumber
  case negative h => exact isValue_negative h.skipNumber
  case string h => exact h.isValue
  case bracket hc _ hi => exact isValue_bracketed isGap_nil hc hi
  case item x _ hi => exact hi.item.spaced x.blank₁ x.blank₂
  case member m hk _ hi =>
    have hm := (hi.keyed hk.skipString_append m.blank₂ m.item.blank₁).spaced m.blank₁ m.item.blank₂
    simp only [List.cons_append, List.append_assoc] at hm
    exact hm

theorem IsPart.isValue (h : ValueText w) : IsValue w :=
  h.passes

theorem valueText_of_skipScalar (h : skipScalar b w = .ok r) : ∃ u, ValueText (b :: u) ∧ w = u ++ r := by
  unfold skipScalar at h
  split_ifs at h with hn ht hf hm hd hq
  case pos =>
    subst hn
    exact ⟨_, .null, readWord_eq_ok_iff.mp h⟩
  case pos =>
    subst ht
    exact ⟨_, .flag true, readWord_eq_ok_iff.mp h⟩
  case pos =>
    subst hf
    exact ⟨_, .flag false, readWord_eq_ok_iff.mp h⟩
  case pos =>
    subst hm
    have ⟨u, hu, hw⟩ := numberText_of_skipNumber h
    exact ⟨u, .negative hu, hw⟩
  case pos =>
    have ⟨u, hu, hw⟩ := numberText_of_skipNumber h
    cases u
    case nil => cases hu.skipNumber
    case cons c u =>
      have ⟨hb, he⟩ := List.cons.inj hw
      exact ⟨u, .number (hb ▸ hu), he⟩
  case pos =>
    subst hq
    have ⟨u, hu, hw⟩ := stringText_of_skipString h
    exact ⟨u, .string hu, hw⟩

theorem gap_of_readColon (h : readColon w = .ok r) : ∃ g, IsGap g ∧ w = g ++ 0x3A :: r := by
  have ⟨g, hg, hw⟩ := exists_gap w
  rw [readColon] at h
  cases hb : skipBlanks w <;> simp only [hb] at h
  case nil => contradiction
  case cons b t =>
    split at h
    case isFalse => contradiction
    case isTrue hc =>
      cases h
      exact ⟨g, hg, by rw [hw, hb, hc]⟩

theorem stringText_of_skipKey (h : skipKey w = .ok r) :
    ∃ g k m, IsGap g ∧ StringText k ∧ IsGap m ∧ w = g ++ 0x22 :: (k ++ (m ++ 0x3A :: r)) := by
  have ⟨g, hg, hw⟩ := exists_gap w
  rw [skipKey_eq] at h
  cases hs : skipBlanks w <;> simp only [hs] at h
  case nil => contradiction
  case cons b t =>
    split at h
    case isFalse => contradiction
    case isTrue hb =>
      cases ht : skipString t <;> rw [ht] at h
      case error => contradiction
      case ok t' =>
        have ⟨k, hk, he⟩ := stringText_of_skipString ht
        have ⟨m, hm, hc⟩ := gap_of_readColon h
        exact ⟨g, k, m, hg, hk, hm, by rw [hw, hs, hb, he, hc]⟩

abbrev EntryText (top : Bracket) : Bytes → Prop :=
  IsPart (.entry top)

theorem valueText_bracketed (h : Rest (EntryText top) top.closing false u) : ValueText (top.opening :: u) := by
  have ⟨es, close, hc, hes, hu⟩ := h.row fun e g he hg => IsPart.trail he hg
  exact hu ▸ .bracket hc hes

-- A value with blanks before it.
def AfterBlanks (u : Bytes) : Prop :=
  ∃ g v, IsGap g ∧ ValueText v ∧ u = g ++ v

theorem AfterBlanks.entryText (h : AfterBlanks u) : EntryText .list u := by
  have ⟨g, v, hg, hv, hu⟩ := h
  have hi := IsPart.item ⟨g, v, [], hg, isGap_nil⟩ hv
  rwa [Spaced.text, List.append_nil, ← hu] at hi

section Sound

variable {fuel : Nat} {stack : List Bracket} {comma : Bool}

-- Some of the bytes are such a text, and fewer steps than these get from behind it to the same end.
def Leaves (P : Bytes → Prop) (fuel : Nat) (stack : List Bracket) (bytes r : Bytes) : Prop :=
  ∃ u w, P u ∧ bytes = u ++ w ∧ ∃ k < fuel, skipOn k stack w = .ok r

def ValueSound (fuel : Nat) : Prop :=
  ∀ stack w r, skipFrom fuel .value stack w = .ok r → Leaves AfterBlanks fuel stack w r

def InsideSound (fuel : Nat) : Prop :=
  ∀ comma top stack w r, skipFrom fuel (.inside comma) (top :: stack) w = .ok r →
    Leaves (Rest (EntryText top) top.closing comma) fuel stack w r

theorem leaves_skipEntry (hs : ValueSound fuel) (h : skipEntry fuel top stack w = .ok r) :
    Leaves (EntryText top) fuel (top :: stack) w r := by
  cases top
  case list =>
    obtain ⟨u, v, hu, hw⟩ := hs _ _ _ h
    exact ⟨u, v, hu.entryText, hw⟩
  case object =>
    rw [skipEntry] at h
    cases hk : skipKey w <;> rw [hk] at h
    case error => contradiction
    case ok w' =>
      obtain ⟨g, k, m, hg, ht, hm, he⟩ := stringText_of_skipKey hk
      obtain ⟨u, v, hu, hw, hv⟩ := hs _ _ _ h
      cases hu.entryText
      case item x hx =>
        refine ⟨_, v, .member ⟨g, k, m, x, hg, hm⟩ ht hx, ?_, hv⟩
        simp only [he, hw, Member.text, List.append_assoc, List.cons_append]

theorem valueSound_succ (hi : InsideSound fuel) : ValueSound (fuel + 1) := by
  have open_ {top : Bracket} {stack : List Bracket} {g w r : Bytes} (hg : IsGap g)
      (h : skipFrom fuel (.inside false) (top :: stack) w = .ok r) :
      Leaves AfterBlanks (fuel + 1) stack (g ++ top.opening :: w) r := by
    have ⟨u, v, hu, hw, k, hk, hv⟩ := hi _ _ _ _ _ h
    exact ⟨_, v, ⟨g, _, hg, valueText_bracketed hu, rfl⟩, by simp [hw], k, by omega, hv⟩
  intro stack w r h
  have ⟨g, hg, hw⟩ := exists_gap w
  rw [skipFrom_value] at h
  cases hb : skipBlanks w <;> simp only [hb] at h
  case nil => contradiction
  case cons b t =>
    rw [hw, hb]
    split_ifs at h with hl ho
    case pos => exact hl ▸ open_ hg h
    case pos => exact ho ▸ open_ hg h
    case neg =>
      cases hs : skipScalar b t <;> rw [hs] at h
      case error => contradiction
      case ok v =>
        have ⟨u, hu, ht⟩ := valueText_of_skipScalar hs
        exact ⟨_, v, ⟨g, _, hg, hu, rfl⟩, by simp [ht], fuel, by omega, h⟩

theorem insideSound_succ (hs : ValueSound fuel) (hi : ∀ k < fuel, InsideSound k) : InsideSound (fuel + 1) := by
  intro comma top stack w r h
  -- What comes after one entry.
  have onward {w : Bytes} (h : skipEntry fuel top stack w = .ok r) :
      ∃ e u v, EntryText top e ∧ Rest (EntryText top) top.closing true u ∧ w = e ++ (u ++ v) ∧
        ∃ k < fuel + 1, skipOn k stack v = .ok r := by
    have ⟨e, w', he, hw, k, hk, hr⟩ := leaves_skipEntry hs h
    have ⟨u, v, hu, hw', n, hn, hv⟩ := hi k hk _ _ _ _ _ hr
    exact ⟨e, u, v, he, hu, by rw [hw, hw'], n, by omega, hv⟩
  have ⟨g, hg, hw⟩ := exists_gap w
  rw [skipFrom_inside] at h
  cases hb : skipBlanks w <;> simp only [hb] at h
  case nil => contradiction
  case cons b t =>
    split_ifs at h with hc ht hcomma
    case pos =>
      rw [closing_iff] at hc
      exact ⟨_, t, .close hg, by rw [hw, hb, hc]; simp, fuel, by omega, h⟩
    case pos =>
      have ⟨e, u, v, he, hu, hv, hk⟩ := onward h
      have hb' : b = 0x2C := by simpa [hcomma] using ht
      cases hcomma
      exact ⟨_, v, .next hg he hu, by rw [hw, hb, hv, hb']; simp, hk⟩
    case neg =>
      rw [← hb, skipEntry_blanks] at h
      have ⟨e, u, v, he, hu, hv, hk⟩ := onward h
      cases eq_false_of_ne_true hcomma
      exact ⟨_, v, .first he hu, by rw [hv, List.append_assoc], hk⟩

-- By induction on the steps that are left.
theorem skipFrom_sound (fuel : Nat) : ValueSound fuel ∧ InsideSound fuel := by
  induction fuel using Nat.strongRecOn
  case ind fuel hi =>
    cases fuel
    case zero => exact ⟨nofun, nofun⟩
    case succ fuel =>
      have ⟨hs, hn⟩ := hi fuel (by omega)
      exact ⟨valueSound_succ hn, insideSound_succ hs fun k hk => (hi k (by omega)).right⟩

end Sound

theorem afterBlanks_of_skipValue {length : Nat} (h : skipValue length w = .ok r) :
    ∃ u, AfterBlanks u ∧ w = u ++ r := by
  have ⟨u, v, hu, hw, k, _, hr⟩ := (skipFrom_sound _).left _ _ _ h
  cases hr
  exact ⟨u, hu, hw⟩

theorem IsPart.skipValue_append (h : ValueText u) (hg : IsGap g) (hr : EndsNumber r) {length : Nat}
    (hl : u.length ≤ length) : skipValue length (g ++ (u ++ r)) = .ok r := by
  have ⟨n, hn, hp⟩ := h.isValue.passed
  have ⟨k, hk⟩ : ∃ k, 2 * length + 2 = k + n := Nat.exists_eq_add_of_le' (by omega)
  rw [skipValue, hk, skipFrom_gap hg, hp k [] r hr]
  rfl

theorem IsPart.skipBlanks_append (h : ValueText u) (w : Bytes) : skipBlanks (u ++ w) = u ++ w := by
  have ⟨b, bs, hu, ho⟩ := h.isValue.opens
  rw [hu, List.cons_append, skipBlanks_cons ho.blank]

-- The grammar has a value exactly when it starts with no blank and is passed over to its end.
theorem valueText_iff : ValueText w ↔ skipBlanks w = w ∧ skipValue w.length w = .ok [] := by
  constructor
  case mp =>
    intro h
    have hb := h.skipBlanks_append []
    have hs := h.skipValue_append isGap_nil .nil (Nat.le_refl _)
    rw [List.append_nil] at hb hs
    exact ⟨hb, hs⟩
  case mpr =>
    intro ⟨hb, hs⟩
    have ⟨u, ⟨g, v, hg, hv, hu⟩, hw⟩ := afterBlanks_of_skipValue hs
    have hn := hv.skipBlanks_append []
    rw [List.append_nil] at hw hn
    rw [hw, hu, hg.skipBlanks_append, hn] at hb
    rw [hw, hu, ← hb]
    exact hv

instance : DecidablePred ValueText := fun _ =>
  decidable_of_iff _ valueText_iff.symm

example : ValueText (encodeString "[\x7b\"a\\ud800\":[1e999, -0]\x7d, null]") := by decide +kernel
example : ¬ValueText (encodeString "[01]") := by decide +kernel

end

end AccessControl.Json
