import AccessControl.Proofs.Skipping
import AccessControl.Proofs.WrittenNumber

namespace AccessControl.Json

open Utf8

def nullWord : Bytes := [0x6E, 0x75, 0x6C, 0x6C]

def flagWord : Bool → Bytes
  | true => [0x74, 0x72, 0x75, 0x65]
  | false => [0x66, 0x61, 0x6C, 0x73, 0x65]

-- From inside the quotes of a string to the last of them.
inductive StringText : Bytes → Prop
  | quote : StringText [0x22]
  | plain {b : UInt8} {w : Bytes} (hb : IsPlain b) (h : StringText w) : StringText (b :: w)
  | short {e c : UInt8} {w : Bytes} (he : shortEscape? e = some c) (h : StringText w) :
    StringText (0x5C :: e :: w)
  | hex {a b c d : UInt8} {n : Nat} {w : Bytes} (hx : hex4? a b c d = some n) (h : StringText w) :
    StringText (0x5C :: 0x75 :: a :: b :: c :: d :: w)

-- A point and digits after it, or nothing.
def IsFraction (w : Bytes) : Prop :=
  w = [] ∨ ∃ ds, AreDigits ds ∧ ds ≠ [] ∧ w = 0x2E :: ds

-- Digits with a sign, or without one.
def IsSigned (w : Bytes) : Prop :=
  ∃ ds, AreDigits ds ∧ ds ≠ [] ∧ (w = ds ∨ w = 0x2B :: ds ∨ w = 0x2D :: ds)

-- An exponent, or nothing.
def IsExponent (w : Bytes) : Prop :=
  w = [] ∨ ∃ mark ds, isExponentMark mark = true ∧ IsSigned ds ∧ w = mark :: ds

-- A number without its sign.
def NumberText (w : Bytes) : Prop :=
  ∃ i f e, IsInteger i ∧ IsFraction f ∧ IsExponent e ∧ w = i ++ (f ++ e)

-- A value with blanks around it.
structure Spaced where
  before : Bytes
  value : Bytes
  after : Bytes
  blank₁ : IsGap before
  blank₂ : IsGap after

def Spaced.text (x : Spaced) : Bytes :=
  x.before ++ (x.value ++ x.after)

-- A member of an object with blanks around all that it consists of.
structure Member where
  before : Bytes
  -- From inside the quotes to the last of them.
  key : Bytes
  middle : Bytes
  item : Spaced
  blank₁ : IsGap before
  blank₂ : IsGap middle

def Member.text (m : Member) : Bytes :=
  m.before ++ 0x22 :: (m.key ++ (m.middle ++ 0x3A :: m.item.text))

inductive Part
  | value
  | entry (top : Bracket)

-- A text of this kind. An entry takes in the blanks around it.
inductive IsPart : Part → Bytes → Prop
  | null : IsPart .value nullWord
  | flag (b : Bool) : IsPart .value (flagWord b)
  | number {w : Bytes} (h : NumberText w) : IsPart .value w
  | negative {w : Bytes} (h : NumberText w) : IsPart .value (0x2D :: w)
  | string {w : Bytes} (h : StringText w) : IsPart .value (0x22 :: w)
  | bracket {top : Bracket} {es : List Bytes} {close : Bytes} (hc : IsGap close)
    (h : ∀ e ∈ es, IsPart (.entry top) e) : IsPart .value (bracketed top (row [] id es) close)
  | item (x : Spaced) (h : IsPart .value x.value) : IsPart (.entry .list) x.text
  | member (m : Member) (hk : StringText m.key) (h : IsPart .value m.item.value) :
    IsPart (.entry .object) m.text

abbrev ValueText : Bytes → Prop :=
  IsPart .value

section

variable {top : Bracket} {g w r e u : Bytes} {b : UInt8}

theorem IsGap.append (hg : IsGap g) (hw : IsGap w) : IsGap (g ++ w) :=
  List.forall_mem_append.mpr ⟨hg, hw⟩

def Spaced.trail (x : Spaced) (hg : IsGap g) : Spaced :=
  { x with after := x.after ++ g, blank₂ := x.blank₂.append hg }

@[simp]
theorem Spaced.text_trail (x : Spaced) (hg : IsGap g) : (x.trail hg).text = x.text ++ g := by
  simp only [trail, text, List.append_assoc]

theorem Member.text_trail (m : Member) (hg : IsGap g) :
    { m with item := m.item.trail hg }.text = m.text ++ g := by
  simp only [text, Spaced.text_trail, List.append_assoc, List.cons_append]

theorem IsPart.trail (h : IsPart (.entry top) e) (hg : IsGap g) : IsPart (.entry top) (e ++ g) := by
  cases h
  case item x h => exact x.text_trail hg ▸ .item (x.trail hg) h
  case member m hk h => exact m.text_trail hg ▸ .member { m with item := m.item.trail hg } hk h

theorem exists_gap (w : Bytes) : ∃ g, IsGap g ∧ w = g ++ skipBlanks w :=
  ⟨w.takeWhile isBlankByte, List.all_eq_true.mp List.all_takeWhile, List.takeWhile_append_dropWhile.symm⟩

-- What is left of a bracket, with a comma due or not.
inductive Rest (Entry : Bytes → Prop) (closing : UInt8) : Bool → Bytes → Prop
  | close {comma : Bool} {g : Bytes} (hg : IsGap g) : Rest Entry closing comma (g ++ [closing])
  | first {e u : Bytes} (he : Entry e) (h : Rest Entry closing true u) : Rest Entry closing false (e ++ u)
  | next {g e u : Bytes} (hg : IsGap g) (he : Entry e) (h : Rest Entry closing true u) :
    Rest Entry closing true (g ++ 0x2C :: (e ++ u))

section Rest

variable {Entry : Bytes → Prop} {closing : UInt8} (ht : ∀ e g, Entry e → IsGap g → Entry (e ++ g))
include ht

-- Blanks in front of a comma are counted to the entry before it.
theorem Rest.entries (h : Rest Entry closing true u) :
    ∃ g es c, IsGap g ∧ IsGap c ∧ (∀ e ∈ es, Entry e) ∧ u = g ++ (entries [] id es ++ (c ++ [closing])) := by
  generalize hc : true = comma at h
  induction h
  case close hg => exact ⟨[], [], _, isGap_nil, hg, nofun, rfl⟩
  case first => contradiction
  case next g e u hg he h hi =>
    have ⟨k, es, c, hk, hc, hes, hu⟩ := hi rfl
    refine ⟨g, (e ++ k) :: es, c, hg, hc, List.forall_mem_cons.mpr ⟨ht e k he hk, hes⟩, ?_⟩
    rw [hu]
    simp [Json.entries]

theorem Rest.row (h : Rest Entry closing false u) :
    ∃ es c, IsGap c ∧ (∀ e ∈ es, Entry e) ∧ u = row [] id es ++ (c ++ [closing]) := by
  cases h
  case close hg => exact ⟨[], _, hg, nofun, rfl⟩
  case first e u he h =>
    have ⟨g, es, c, hg, hc, hes, hu⟩ := Rest.entries ht h
    refine ⟨(e ++ g) :: es, c, hc, List.forall_mem_cons.mpr ⟨ht e g he hg, hes⟩, ?_⟩
    rw [hu]
    simp [Json.row]

end Rest

theorem readWord_eq_ok_iff {word : Bytes} : readWord word w = .ok r ↔ w = word ++ r := by
  fun_induction readWord word w
  case case1 => simp
  case case2 => simp
  case case3 ws b rest hi => simp [hi]
  case case4 hb => simp [hb]

theorem StringText.skipString_append (h : StringText w) (r : Bytes) : skipString (w ++ r) = .ok r := by
  induction h
  case quote =>
    rw [List.singleton_append, skipString.eq_def]
    rfl
  case plain hb _ hi =>
    rw [List.cons_append, skipString.eq_def]
    simp only [if_neg hb.quote, if_neg hb.backslash, if_neg hb.control, hi]
  case short e c w he _ hi =>
    have hu : e ≠ 0x75 := fun hu => by
      subst hu
      contradiction
    rw [List.cons_append, List.cons_append, skipString.eq_def]
    simp [hu, he, hi]
  case hex hx _ hi =>
    simp only [List.cons_append]
    rw [skipString.eq_def]
    simp [hx, hi]

theorem stringText_of_skipString (h : skipString w = .ok r) : ∃ t, StringText t ∧ w = t ++ r := by
  fun_induction skipString w
  case case2 =>
    cases h
    exact ⟨_, .quote, rfl⟩
  case case4 hx _ hi =>
    obtain ⟨n, hn⟩ := Option.isSome_iff_exists.mp hx
    obtain ⟨t, ht, he⟩ := hi h
    exact ⟨_, .hex hn ht, by simp [he]⟩
  case case7 hs _ hi =>
    obtain ⟨c, hc⟩ := Option.isSome_iff_exists.mp hs
    obtain ⟨t, ht, he⟩ := hi h
    exact ⟨_, .short hc ht, by simp [he]⟩
  case case10 hq hb hc hi =>
    obtain ⟨t, ht, he⟩ := hi h
    exact ⟨_, .plain ⟨hq, hb, hc⟩ ht, by simp [he]⟩
  all_goals contradiction

theorem IsSigned.skipExponent (h : IsSigned w) : skipExponent w = .ok [] := by
  have ⟨ds, hd, hn, hw⟩ := h
  rcases hw with rfl | rfl | rfl
  case inl =>
    obtain ⟨b, bs, rfl⟩ := List.exists_cons_of_ne_nil hn
    have ⟨hb, hs⟩ := List.forall_mem_cons.mp hd
    have hr := AreDigits.dropWhile_append hs endsDigits_nil
    rw [List.append_nil] at hr
    rw [skipExponent_cons, if_neg (not_or.mpr ⟨ne_of_isDigit hb rfl, ne_of_isDigit hb rfl⟩), skipUnsignedExponent,
      if_pos hb, hr]
  all_goals exact skipExponent_signed (by simp) hd hn

theorem IsExponent.skipOptionalExponent (h : IsExponent w) : skipOptionalExponent w = .ok [] := by
  rcases h with rfl | ⟨mark, ds, hm, hs, rfl⟩
  · rfl
  · rw [Json.skipOptionalExponent, if_pos hm, hs.skipExponent]

theorem IsExponent.endsDigits (h : IsExponent w) : EndsDigits w := by
  rcases h with rfl | ⟨mark, ds, hm, hs, rfl⟩
  · exact endsDigits_nil
  · simp only [isExponentMark, Bool.or_eq_true, beq_iff_eq] at hm
    rcases hm with rfl | rfl <;> exact endsDigits_cons rfl ds

theorem IsExponent.skipAfterInteger (h : IsExponent w) : skipAfterInteger w = .ok [] := by
  rcases h with rfl | ⟨mark, ds, hm, hs, rfl⟩
  · rfl
  · have hp : mark ≠ 0x2E := fun hp => by
      subst hp
      contradiction
    rw [skipAfterInteger_cons, if_neg hp]
    exact skipOptionalExponent (.inr ⟨mark, ds, hm, hs, rfl⟩)

theorem NumberText.skipNumber (h : NumberText w) : skipNumber w = .ok [] := by
  have ⟨i, f, e, hi, hf, he, hw⟩ := h
  rw [hw]
  rcases hf with rfl | ⟨ds, hd, hn, rfl⟩
  · rw [List.nil_append, hi.skipNumber_append he.endsDigits, he.skipAfterInteger]
  · rw [List.cons_append, skipNumber_fraction hi hd hn he.endsDigits, he.skipOptionalExponent]

theorem exists_digits (w : Bytes) : ∃ ds, AreDigits ds ∧ w = ds ++ w.dropWhile isDigit :=
  ⟨w.takeWhile isDigit, List.all_eq_true.mp List.all_takeWhile, List.takeWhile_append_dropWhile.symm⟩

theorem exists_digits_of_cons (hb : isDigit b = true) (w : Bytes) :
    ∃ ds, AreDigits ds ∧ ds ≠ [] ∧ b :: w = ds ++ w.dropWhile isDigit := by
  have ⟨ds, hd, hw⟩ := exists_digits w
  refine ⟨b :: ds, List.forall_mem_cons.mpr ⟨hb, hd⟩, List.cons_ne_nil _ _, ?_⟩
  rw [List.cons_append, ← hw]

theorem digits_of_skipUnsignedExponent (h : skipUnsignedExponent w = .ok r) :
    ∃ ds, AreDigits ds ∧ ds ≠ [] ∧ w = ds ++ r := by
  cases w
  case nil => contradiction
  case cons b w =>
    rw [skipUnsignedExponent] at h
    split at h
    case isTrue hb =>
      cases h
      exact exists_digits_of_cons hb w
    case isFalse => contradiction

theorem isSigned_of_skipExponent (h : skipExponent w = .ok r) : ∃ u, IsSigned u ∧ w = u ++ r := by
  cases w
  case nil => contradiction
  case cons b w =>
    rw [skipExponent_cons] at h
    split at h
    case isTrue hb =>
      have ⟨ds, hd, hn, hw⟩ := digits_of_skipUnsignedExponent h
      refine ⟨b :: ds, ⟨ds, hd, hn, ?_⟩, by rw [hw]; rfl⟩
      rcases hb with rfl | rfl <;> simp
    case isFalse =>
      have ⟨ds, hd, hn, hw⟩ := digits_of_skipUnsignedExponent h
      exact ⟨ds, ⟨ds, hd, hn, .inl rfl⟩, hw⟩

theorem isExponent_of_skipOptionalExponent (h : skipOptionalExponent w = .ok r) :
    ∃ u, IsExponent u ∧ w = u ++ r := by
  cases w
  case nil =>
    cases h
    exact ⟨[], .inl rfl, rfl⟩
  case cons b w =>
    rw [skipOptionalExponent] at h
    split at h
    case isTrue hb =>
      obtain ⟨u, hu, hw⟩ := isSigned_of_skipExponent h
      exact ⟨b :: u, .inr ⟨b, u, hb, hu, rfl⟩, by rw [hw]; rfl⟩
    case isFalse =>
      cases h
      exact ⟨[], .inl rfl, rfl⟩

theorem digits_of_skipFraction (h : skipFraction w = .ok r) :
    ∃ ds e, AreDigits ds ∧ ds ≠ [] ∧ IsExponent e ∧ w = ds ++ (e ++ r) := by
  cases w
  case nil => contradiction
  case cons b w =>
    rw [skipFraction_cons] at h
    split at h
    case isTrue hb =>
      have ⟨ds, hd, hn, hw⟩ := exists_digits_of_cons hb w
      have ⟨e, he, hr⟩ := isExponent_of_skipOptionalExponent h
      exact ⟨ds, e, hd, hn, he, hr ▸ hw⟩
    case isFalse => contradiction

theorem fraction_of_skipAfterInteger (h : skipAfterInteger w = .ok r) :
    ∃ f e, IsFraction f ∧ IsExponent e ∧ w = f ++ (e ++ r) := by
  cases w
  case nil =>
    cases h
    exact ⟨[], [], .inl rfl, .inl rfl, rfl⟩
  case cons b w =>
    rw [skipAfterInteger_cons] at h
    split at h
    case isTrue hb =>
      have ⟨ds, e, hd, hn, he, hw⟩ := digits_of_skipFraction h
      exact ⟨0x2E :: ds, e, .inr ⟨ds, hd, hn, rfl⟩, he, by rw [hb, hw]; rfl⟩
    case isFalse =>
      have ⟨e, he, hw⟩ := isExponent_of_skipOptionalExponent h
      exact ⟨[], e, .inl rfl, he, hw⟩

theorem numberText_of_skipNumber (h : skipNumber w = .ok r) : ∃ u, NumberText u ∧ w = u ++ r := by
  have close {i w : Bytes} (hi : IsInteger i) (h : skipAfterInteger w = .ok r) :
      ∃ u, NumberText u ∧ i ++ w = u ++ r := by
    obtain ⟨f, e, hf, he, hw⟩ := fraction_of_skipAfterInteger h
    exact ⟨i ++ (f ++ e), ⟨i, f, e, hi, hf, he, rfl⟩, by simp [hw]⟩
  cases w
  case nil => contradiction
  case cons b w =>
    rw [skipNumber_cons] at h
    split at h
    case isTrue hz =>
      subst hz
      have hi : IsInteger [0x30] := ⟨by simp [AreDigits, isDigit], .inl rfl⟩
      cases w
      case nil => exact close hi h
      case cons c w =>
        rw [afterZero] at h
        split at h
        case isTrue => contradiction
        case isFalse => exact close hi h
    case isFalse hz =>
      split at h
      case isTrue hb =>
        obtain ⟨ds, hd, hw⟩ := exists_digits w
        have hi : IsInteger (b :: ds) := ⟨List.forall_mem_cons.mpr ⟨hb, hd⟩, .inr ⟨b, ds, rfl, hz⟩⟩
        obtain ⟨u, hu, he⟩ := close hi h
        exact ⟨u, hu, by rw [← he, List.cons_append, ← hw]⟩
      case isFalse => contradiction

end

end AccessControl.Json
