import AccessControl.Proofs.Literal

namespace AccessControl.Json

-- The number that digits make of the one so far.
def decimalFrom (n : Nat) (ds : Bytes) : Nat :=
  ds.foldl (fun n b => n * 10 + digitValue b) n

-- The significand that digits make of the one so far, and the digits that it has no room for.
def fill (n : Nat) : Bytes → Nat × Bytes
  | [] => (n, [])
  | b :: ds =>
    let m := n * 10 + digitValue b
    if m ≤ maxSignificand then fill m ds else (n, b :: ds)

inductive Sign
  | unsigned
  | plus
  | minus

namespace Sign

def text : Sign → Bytes
  | unsigned => []
  | plus => [0x2B]
  | minus => [0x2D]

def isMinus : Sign → Bool
  | minus => true
  | _ => false

end Sign

structure Exponent where
  mark : UInt8
  sign : Sign
  digits : Bytes
  marks : isExponentMark mark = true
  areDigits : AreDigits digits
  ne : digits ≠ []

namespace Exponent

def text (e : Exponent) : Bytes :=
  e.mark :: (e.sign.text ++ e.digits)

-- An exponent, or nothing.
def text? : Option Exponent → Bytes
  | none => []
  | some e => e.text

-- What a significand and its power of ten come to. An exponent that 31 bits do not hold leaves no number
-- but zero.
def raise (negative : Bool) (significand : Nat) (start : Int) : Option Exponent → Except ReadError Number
  | none => floatOf negative significand start
  | some e =>
    let n := decimalFrom 0 e.digits
    if n < Nat.pow 2 31 then floatOf negative significand (if e.sign.isMinus then start - n else start + n)
    else if significand ≠ 0 ∧ e.sign.isMinus = false then .error .numberOutOfRange
    else .ok (.float ⟨negative, Binary64.zero⟩)

-- The exponent, or where one might have stood, ends before these bytes.
structure Ends (e? : Option Exponent) (rest : Bytes) : Prop where
  digit : EndsDigits rest
  mark : e? = none → ∀ b bs, rest = b :: bs → isExponentMark b = false

end Exponent

-- A number without its sign. A fraction without digits is none.
structure Numeral where
  integer : Bytes
  fraction : Bytes
  exponent : Option Exponent
  isInteger : IsInteger integer
  areDigits : AreDigits fraction

namespace Numeral

def fractionText : Bytes → Bytes
  | [] => []
  | b :: ds => 0x2E :: b :: ds

def text (n : Numeral) : Bytes :=
  n.integer ++ (fractionText n.fraction ++ Exponent.text? n.exponent)

def value (negative : Bool) (n : Numeral) : Except ReadError Number :=
  let whole := decimalFrom 0 n.integer
  if n.fraction = [] ∧ n.exponent = none ∧ whole ≤ maxSignificand then .ok (integerOf negative whole)
  else
    let (leading, excess) := fill 0 n.integer
    let (significand, dropped) := fill leading n.fraction
    Exponent.raise negative significand (excess.length - (n.fraction.length - dropped.length)) n.exponent

-- The number ends before these bytes.
structure Ends (n : Numeral) (rest : Bytes) : Prop extends Exponent.Ends n.exponent rest where
  point : n.fraction = [] → n.exponent = none → ∀ b bs, rest = b :: bs → b ≠ 0x2E

end Numeral

section

variable {negative expNegative : Bool} {n e before after : Nat} {start : Int} {e? : Option Exponent} {b : UInt8}
  {ds i t w r : Bytes} {x : Number}

theorem EndsDigits.dropWhile (h : EndsDigits w) : w.dropWhile isDigit = w := by
  cases w
  case nil => rfl
  case cons b w => simp [h b w rfl]

theorem le_decimalFrom (n : Nat) (ds : Bytes) : n ≤ decimalFrom n ds := by
  induction ds generalizing n
  case nil => exact Nat.le_refl n
  case cons b ds hi =>
    have h : n * 10 + digitValue b ≤ decimalFrom n (b :: ds) := hi _
    omega

theorem readExponentDigits_digits (hd : AreDigits ds) (hw : EndsDigits w) (he : e < Nat.pow 2 31) :
    readExponentDigits negative n start expNegative e (ds ++ w) =
      if decimalFrom e ds < Nat.pow 2 31 then
        floatBefore negative n
          (if expNegative then start - decimalFrom e ds else start + decimalFrom e ds) w
      else exponentOverflow negative expNegative n w := by
  induction ds generalizing e
  case nil =>
    have hc : decimalFrom e [] = e := rfl
    rw [hc, if_pos he]
    cases w
    case nil => rfl
    case cons b w => simp [readExponentDigits, hw b w rfl]
  case cons b ds hi =>
    obtain ⟨hb, hd⟩ := List.forall_mem_cons.mp hd
    have hc : decimalFrom e (b :: ds) = decimalFrom (e * 10 + digitValue b) ds := rfl
    rw [List.cons_append, readExponentDigits, if_pos hb, hc]
    dsimp only
    split
    case isTrue he => exact hi hd he
    case isFalse he =>
      have hn := le_decimalFrom (e * 10 + digitValue b) ds
      rw [if_neg (by omega), exponentOverflow, exponentOverflow, AreDigits.dropWhile_append hd hw, hw.dropWhile]

theorem readUnsignedExponent_digits (e : Exponent) (hw : EndsDigits w) :
    readUnsignedExponent negative n start e.sign.isMinus (e.digits ++ w) =
      (Exponent.raise negative n start (some e)).map (·, w) := by
  obtain ⟨b, ds, he⟩ := List.exists_cons_of_ne_nil e.ne
  obtain ⟨hb, hd⟩ := List.forall_mem_cons.mp (he ▸ e.areDigits)
  have hv : digitValue b < Nat.pow 2 31 := Nat.lt_trans (digitValue_lt hb) (by decide)
  have hc : decimalFrom 0 e.digits = decimalFrom (digitValue b) ds := by simp [he, decimalFrom]
  rw [he, List.cons_append, readUnsignedExponent, if_pos hb, readExponentDigits_digits hd hw hv, Exponent.raise, hc]
  split
  case isTrue => rfl
  case isFalse =>
    rw [exponentOverflow, hw.dropWhile]
    split <;> rfl

theorem readExponent_text (e : Exponent) (hw : EndsDigits w) :
    readExponent negative n start (e.sign.text ++ (e.digits ++ w)) =
      (Exponent.raise negative n start (some e)).map (·, w) := by
  rw [← readUnsignedExponent_digits e hw]
  cases e.sign
  case unsigned =>
    obtain ⟨b, ds, he⟩ := List.exists_cons_of_ne_nil e.ne
    have hb : isDigit b = true := e.areDigits b (he ▸ List.mem_cons_self)
    have hp : b ≠ 0x2B := ne_of_isDigit hb rfl
    have hm : b ≠ 0x2D := ne_of_isDigit hb rfl
    simp [he, Sign.text, Sign.isMinus, readExponent_cons, hp, hm]
  case plus => exact readExponent_cons ..
  case minus => exact readExponent_cons ..

theorem readOptionalExponent_text (h : Exponent.Ends e? w) :
    readOptionalExponent negative n start (Exponent.text? e? ++ w) =
      (Exponent.raise negative n start e?).map (·, w) := by
  cases e?
  case some e =>
    rw [← readExponent_text e h.digit, ← List.append_assoc]
    exact if_pos e.marks
  case none =>
    cases w
    case nil => rfl
    case cons b w => exact if_neg (by simp [h.mark rfl b w rfl])

theorem fill_cons (b : UInt8) (ds : Bytes) :
    fill n (b :: ds) =
      if n * 10 + digitValue b ≤ maxSignificand then fill (n * 10 + digitValue b) ds else (n, b :: ds) := rfl

-- A significand has room for digits exactly as long as it holds the number that they make.
theorem fill_of_le (h : decimalFrom n ds ≤ maxSignificand) : fill n ds = (decimalFrom n ds, []) := by
  induction ds generalizing n
  case nil => rfl
  case cons b ds hi =>
    have hm : n * 10 + digitValue b ≤ maxSignificand := Nat.le_trans (le_decimalFrom _ ds) h
    rw [fill_cons, if_pos hm]
    exact hi h

theorem excess_ne_nil (hn : n ≤ maxSignificand) (h : ¬decimalFrom n ds ≤ maxSignificand) : (fill n ds).2 ≠ [] := by
  induction ds generalizing n
  case nil => exact absurd hn h
  case cons b ds hi =>
    rw [fill_cons]
    split
    case isTrue hm => exact hi hm h
    case isFalse => exact List.cons_ne_nil b ds

-- A number whose digits all fit is its digits times their power of ten.
theorem Numeral.value_of_le (n : Numeral) (h : decimalFrom 0 (n.integer ++ n.fraction) ≤ maxSignificand) :
    n.value negative =
      if n.fraction = [] ∧ n.exponent = none then .ok (integerOf negative (decimalFrom 0 n.integer))
      else Exponent.raise negative (decimalFrom 0 (n.integer ++ n.fraction)) (-n.fraction.length) n.exponent := by
  have ha : decimalFrom 0 (n.integer ++ n.fraction) = decimalFrom (decimalFrom 0 n.integer) n.fraction :=
    List.foldl_append
  rw [ha] at h ⊢
  have hi : decimalFrom 0 n.integer ≤ maxSignificand := Nat.le_trans (le_decimalFrom _ n.fraction) h
  simp [value, hi, fill_of_le hi, fill_of_le h]

theorem readFraction_digits (hd : AreDigits ds) (hw : EndsDigits w) (ha : after ≠ 0 ∨ ds ≠ []) :
    readFraction negative n before after (ds ++ w) =
      readOptionalExponent negative (fill n ds).1 (before - (after + ds.length - (fill n ds).2.length)) w := by
  induction ds generalizing n after
  case nil =>
    have ha : after ≠ 0 := by simpa using ha
    cases w
    case nil => simp [readFraction, readOptionalExponent, fill, ha]
    case cons b w => simp [readFraction, fill, ha, hw b w rfl]
  case cons b ds hi =>
    obtain ⟨hb, hd⟩ := List.forall_mem_cons.mp hd
    rw [List.cons_append, readFraction, if_pos hb, fill_cons]
    dsimp only
    split
    case isTrue =>
      rw [hi hd (.inl after.succ_ne_zero), List.length_cons]
      congr 1
      omega
    case isFalse =>
      rw [AreDigits.dropWhile_append hd hw]
      congr 1
      dsimp only
      omega

theorem readLongInteger_digits (hd : AreDigits ds) :
    readLongInteger negative n e (ds ++ w) = readLongInteger negative n (e + ds.length) w := by
  induction ds generalizing e
  case nil => rfl
  case cons b ds hi =>
    obtain ⟨hb, hd⟩ := List.forall_mem_cons.mp hd
    rw [List.cons_append, readLongInteger, if_pos hb, hi hd, List.length_cons, Nat.add_right_comm, Nat.add_assoc]

-- How an integer is read on behind its digits, once they have filled the significand or left it room.
def readBehind (negative : Bool) (filled : Nat × Bytes) (w : Bytes) : Read Number :=
  if filled.2 = [] then readAfterInteger negative filled.1 w
  else readLongInteger negative filled.1 filled.2.length w

-- Digits are read until the significand is full, and only counted from then on.
theorem readIntegerDigits_digits (hd : AreDigits ds) (hw : EndsDigits w) :
    readIntegerDigits negative n (ds ++ w) = readBehind negative (fill n ds) w := by
  induction ds generalizing n
  case nil =>
    cases w
    case nil => rfl
    case cons b w => simp [readIntegerDigits, hw b w rfl, fill, readBehind]
  case cons b ds hi =>
    obtain ⟨hb, hd⟩ := List.forall_mem_cons.mp hd
    rw [List.cons_append, readIntegerDigits, if_pos hb, fill_cons]
    dsimp only
    split
    case isTrue => exact hi hd
    case isFalse =>
      rw [readLongInteger_digits hd, readBehind, if_neg (List.cons_ne_nil b ds), List.length_cons, Nat.add_comm]

theorem readNumber_digits (hi : IsInteger i) (hw : EndsDigits w) :
    readNumber negative (i ++ w) = readBehind negative (fill 0 i) w := by
  rcases hi.leads with rfl | ⟨b, ds, rfl, hz⟩
  case inl =>
    rw [List.singleton_append, readNumber_cons, if_pos rfl]
    cases w
    case nil => rfl
    case cons c w => simp [afterZero, hw c w rfl, readBehind, fill, digitValue]
  case inr =>
    have hb := hi.digits b List.mem_cons_self
    have hm : digitValue b ≤ maxSignificand := Nat.le_trans (Nat.le_of_lt (digitValue_lt hb)) (by decide)
    rw [← readIntegerDigits_digits hi.digits hw, List.cons_append, readNumber_cons, if_neg hz, if_pos hb,
      readIntegerDigits, if_pos hb]
    simp only [Nat.zero_mul, Nat.zero_add, if_pos hm]

theorem readLongInteger_ended (hd : EndsDigits w) (hp : ∀ b bs, w = b :: bs → b ≠ 0x2E) :
    readLongInteger negative n e w = readOptionalExponent negative n e w := by
  cases w
  case nil => rfl
  case cons b w => simp [readLongInteger, hd b w rfl, hp b w rfl]

namespace Exponent

theorem mark_ne (e : Exponent) : isDigit e.mark = false ∧ e.mark ≠ 0x2E := by
  have h := e.marks
  simp only [isExponentMark, Bool.or_eq_true, beq_iff_eq] at h
  rcases h with h | h <;> rw [h] <;> decide

theorem Ends.endsDigits (h : Ends e? w) : EndsDigits (text? e? ++ w) := by
  cases e?
  case none => exact h.digit
  case some e => exact endsDigits_cons e.mark_ne.left _

end Exponent

namespace Numeral

theorem Ends.of_endsNumber (n : Numeral) (h : EndsNumber w) : n.Ends w where
  digit := h.digit
  mark _ := h.mark
  point _ _ := h.point

theorem Ends.endsDigits {n : Numeral} (h : n.Ends w) :
    EndsDigits (fractionText n.fraction ++ (Exponent.text? n.exponent ++ w)) := by
  cases n.fraction
  case nil => exact h.toEnds.endsDigits
  case cons b ds => exact endsDigits_cons rfl _

-- An integer with an exponent, or with nothing, behind it.
theorem readBehind_unpointed (filled : Nat × Bytes) (h : Exponent.Ends e? w)
    (hp : e? = none → ∀ b bs, w = b :: bs → b ≠ 0x2E) :
    readBehind negative filled (Exponent.text? e? ++ w) =
      (if e? = none ∧ filled.2 = [] then .ok (integerOf negative filled.1)
        else Exponent.raise negative filled.1 filled.2.length e?).map (·, w) := by
  have hn : ∀ b bs, Exponent.text? e? ++ w = b :: bs → b ≠ 0x2E := by
    cases e?
    case none => exact hp rfl
    case some e => exact fun b bs hb => (List.cons.inj hb).left ▸ e.mark_ne.right
  rw [readBehind, readLongInteger_ended h.endsDigits hn, readOptionalExponent_text h]
  by_cases ho : filled.2 = []
  case neg => simp [ho]
  case pos =>
    cases e?
    case none =>
      have he : EndsNumber w := ⟨h.digit, hp rfl, h.mark rfl⟩
      simp [ho, Exponent.text?, readAfterInteger_ended negative filled.1 he, Except.map]
    case some e =>
      have ha : readAfterInteger negative filled.1 (Exponent.text? (some e) ++ w) =
          readOptionalExponent negative filled.1 0 (Exponent.text? (some e) ++ w) := by
        simp [Exponent.text?, Exponent.text, readAfterInteger, readOptionalExponent, e.marks, e.mark_ne.right]
      simp [ho, ha, readOptionalExponent_text h]

theorem readBehind_pointed (filled : Nat × Bytes) (w : Bytes) :
    readBehind negative filled (0x2E :: w) = readFraction negative filled.1 filled.2.length 0 w := by
  rw [readBehind]
  split
  case isTrue h => exact h ▸ rfl
  case isFalse => rfl

theorem readNumber_append (negative : Bool) (n : Numeral) (h : n.Ends w) :
    readNumber negative (n.text ++ w) = (n.value negative).map (·, w) := by
  rw [text, List.append_assoc, List.append_assoc, readNumber_digits n.isInteger h.endsDigits, value]
  have hf := n.areDigits
  cases hx : n.fraction
  case nil =>
    rw [fractionText, List.nil_append, readBehind_unpointed _ h.toEnds (h.point hx)]
    by_cases hl : decimalFrom 0 n.integer ≤ maxSignificand
    case pos => simp [fill, hl, fill_of_le hl]
    case neg => simp [fill, hl, excess_ne_nil (Nat.zero_le _) hl]
  case cons b ds =>
    rw [hx] at hf
    have hn : b :: ds ≠ [] := List.cons_ne_nil b ds
    rw [fractionText, List.cons_append, readBehind_pointed,
      readFraction_digits hf h.toEnds.endsDigits (.inr hn), readOptionalExponent_text h.toEnds]
    simp

end Numeral

theorem exists_endsDigits (w : Bytes) : ∃ ds t, AreDigits ds ∧ EndsDigits t ∧ w = ds ++ t := by
  obtain ⟨ds, hd, hw⟩ := exists_digits w
  refine ⟨ds, _, hd, fun b bs hb => ?_, hw⟩
  have hn := List.head?_dropWhile_not isDigit w
  simpa [hb] using hn

theorem rest_of_map {o : Except ReadError Number} (h : o.map (·, t) = .ok (x, r)) : r = t := by
  cases o <;> cases h
  rfl

theorem readExponent_sign (negative : Bool) (n : Nat) (start : Int) (w : Bytes) :
    ∃ (s : Sign) (u : Bytes), w = s.text ++ u ∧
      readExponent negative n start w = readUnsignedExponent negative n start s.isMinus u := by
  cases w
  case nil => exact ⟨.unsigned, [], rfl, rfl⟩
  case cons b w =>
    rw [readExponent_cons]
    split_ifs with hp hm
    · exact ⟨.plus, w, hp ▸ rfl, rfl⟩
    · exact ⟨.minus, w, hm ▸ rfl, rfl⟩
    · exact ⟨.unsigned, b :: w, rfl, rfl⟩

theorem exists_exponent (h : readOptionalExponent negative n start w = .ok (x, r)) (hw : EndsDigits w) :
    ∃ e?, Exponent.Ends e? r ∧ w = Exponent.text? e? ++ r := by
  cases w
  case nil =>
    rw [rest_of_map h]
    exact ⟨none, ⟨endsDigits_nil, by simp⟩, rfl⟩
  case cons mark w =>
    rw [readOptionalExponent] at h
    split at h
    case isFalse hm =>
      rw [rest_of_map h]
      refine ⟨none, ⟨hw, ?_⟩, rfl⟩
      rintro - b bs ⟨⟩
      exact eq_false_of_ne_true hm
    case isTrue hm =>
      obtain ⟨s, u, hu, hs⟩ := readExponent_sign negative n start w
      obtain ⟨ds, t, hd, ht, hdt⟩ := exists_endsDigits u
      have hn : ds ≠ [] := by
        rintro rfl
        rw [hs, hdt, List.nil_append] at h
        cases t
        case nil => contradiction
        case cons b t => simp [readUnsignedExponent, ht b t rfl] at h
      let e : Exponent := ⟨mark, s, ds, hm, hd, hn⟩
      rw [hu, hdt, readExponent_text e ht] at h
      rw [rest_of_map h]
      exact ⟨some e, ⟨ht, by simp⟩, by simp [hu, hdt, Exponent.text?, Exponent.text, e]⟩

theorem exists_integer (h : readNumber negative w = .ok (x, r)) :
    ∃ i t, IsInteger i ∧ EndsDigits t ∧ w = i ++ t := by
  cases w
  case nil => contradiction
  case cons b w =>
    rw [readNumber_cons] at h
    split_ifs at h with hz hb
    case pos =>
      refine ⟨[0x30], w, ⟨by simp [AreDigits, isDigit], .inl rfl⟩, fun c cs hc => ?_, hz ▸ rfl⟩
      subst hc
      rw [afterZero] at h
      split_ifs at h with hc
      exact eq_false_of_ne_true hc
    case pos =>
      obtain ⟨ds, t, hd, ht, hw⟩ := exists_endsDigits w
      exact ⟨b :: ds, t, ⟨List.forall_mem_cons.mpr ⟨hb, hd⟩, .inr ⟨b, ds, rfl, hz⟩⟩, ht, by rw [hw]; rfl⟩

theorem exists_exponent_unpointed {filled : Nat × Bytes} (hw : EndsDigits w) (hp : ∀ b bs, w = b :: bs → b ≠ 0x2E)
    (h : readBehind negative filled w = .ok (x, r)) : ∃ e?, Exponent.Ends e? r ∧ w = Exponent.text? e? ++ r := by
  rw [readBehind] at h
  split at h
  case isFalse =>
    rw [readLongInteger_ended hw hp] at h
    exact exists_exponent h hw
  case isTrue =>
    cases w
    case nil =>
      cases h
      exact ⟨none, ⟨endsDigits_nil, by simp⟩, rfl⟩
    case cons b w =>
      rw [readAfterInteger, if_neg (hp b w rfl)] at h
      split at h
      case isTrue hb =>
        have ho : readOptionalExponent negative filled.1 0 (b :: w) = .ok (x, r) := by
          rw [readOptionalExponent, if_pos hb, h]
        exact exists_exponent ho hw
      case isFalse hb =>
        cases h
        refine ⟨none, ⟨hw, ?_⟩, rfl⟩
        rintro - c cs ⟨⟩
        exact eq_false_of_ne_true hb

theorem exists_fraction (h : readFraction negative n before 0 w = .ok (x, r)) :
    ∃ ds e?, AreDigits ds ∧ ds ≠ [] ∧ Exponent.Ends e? r ∧ w = ds ++ (Exponent.text? e? ++ r) := by
  obtain ⟨ds, t, hd, ht, hw⟩ := exists_endsDigits w
  have hn : ds ≠ [] := by
    rintro rfl
    rw [hw, List.nil_append] at h
    cases t
    case nil => contradiction
    case cons b t => simp [readFraction, ht b t rfl] at h
  rw [hw, readFraction_digits hd ht (.inr hn)] at h
  obtain ⟨e?, he, hr⟩ := exists_exponent h ht
  exact ⟨ds, e?, hd, hn, he, hr ▸ hw⟩

theorem exists_numeral_text (h : readNumber negative w = .ok (x, r)) :
    ∃ n : Numeral, n.Ends r ∧ w = n.text ++ r := by
  obtain ⟨i, t, hi, ht, hw⟩ := exists_integer h
  rw [hw, readNumber_digits hi ht] at h
  by_cases hp : ∃ t', t = 0x2E :: t'
  case pos =>
    obtain ⟨t', rfl⟩ := hp
    rw [Numeral.readBehind_pointed] at h
    obtain ⟨ds, e?, hd, hn, he, ht'⟩ := exists_fraction h
    obtain ⟨b, ds, rfl⟩ := List.exists_cons_of_ne_nil hn
    exact ⟨⟨i, b :: ds, e?, hi, hd⟩, ⟨he, by simp⟩, by simp [hw, ht', Numeral.text, Numeral.fractionText]⟩
  case neg =>
    have hp : ∀ b bs, t = b :: bs → b ≠ 0x2E := by
      rintro b bs hb rfl
      exact hp ⟨bs, hb⟩
    obtain ⟨e?, he, hr⟩ := exists_exponent_unpointed ht hp h
    refine ⟨⟨i, [], e?, hi, by simp [AreDigits]⟩, ⟨he, ?_⟩, by simp [hw, hr, Numeral.text, Numeral.fractionText]⟩
    rintro - rfl
    have hr : t = r := hr
    exact hr ▸ hp

-- Whatever is read as a number is the text of one, and its value is what is read.
theorem exists_numeral (h : readNumber negative w = .ok (x, r)) :
    ∃ n : Numeral, w = n.text ++ r ∧ n.value negative = .ok x := by
  obtain ⟨n, he, hw⟩ := exists_numeral_text h
  rw [hw, n.readNumber_append negative he] at h
  cases hv : n.value negative <;> rw [hv] at h <;> cases h
  exact ⟨n, hw, hv⟩

end

end AccessControl.Json
