import AccessControl.Json.Skip
import AccessControl.Proofs.WrittenLexeme

namespace AccessControl.Json

-- A byte that may belong to a word or to a number.
structure IsPassed (b : UInt8) : Prop where
  quote : b ≠ 0x22
  ascii : b ≤ 0x7F

instance : DecidablePred IsPassed := fun b =>
  decidable_of_iff (b ≠ 0x22 ∧ b ≤ 0x7F) ⟨fun h => ⟨h.1, h.2⟩, fun h => ⟨h.1, h.2⟩⟩

theorem isPassed_of_isDigit {b : UInt8} (h : isDigit b = true) : IsPassed b := by
  refine { quote := ne_of_isDigit h rfl, ascii := ?_ }
  simp only [isDigit, Bool.and_eq_true, decide_eq_true_eq, UInt8.le_iff_toNat_le] at h
  have hh : (0x39 : UInt8).toNat = 0x39 := rfl
  have ha : (0x7F : UInt8).toNat = 0x7F := rfl
  rw [UInt8.le_iff_toNat_le]
  omega

-- Reading either meets the end of the bytes, or comes to an outcome that more bytes leave as it is. What is
-- too large a number is so without the end of the bytes.
inductive Steady (f : Bytes → Read α) (w : Bytes) : Prop
  | ended (passed : ∀ b ∈ w, IsPassed b) (e : ReadError) (h : f w = .error e) (he : e ≠ .numberOutOfRange)
  | settled (o : Except ReadError α) (u r : Bytes) (eq : w = u ++ r) (passed : ∀ b ∈ u, IsPassed b)
    (h : ∀ q, (r = [] → EndsNumber q) → f (w ++ q) = o.map (·, r ++ q))

namespace Steady

variable {f g : Bytes → Read α} {o : Except ReadError α} {b : UInt8} {w : Bytes}

-- One byte is passed, and reading goes on behind it.
theorem step (hb : IsPassed b) (h : ∀ x, f (b :: x) = g x) (hg : Steady g w) : Steady f (b :: w) := by
  cases hg
  case ended hp e hf he => exact .ended (List.forall_mem_cons.mpr ⟨hb, hp⟩) e ((h w).trans hf) he
  case settled o u r hw hp hs =>
    refine .settled o (b :: u) r (hw ▸ rfl) (List.forall_mem_cons.mpr ⟨hb, hp⟩) fun q hq => ?_
    exact (h (w ++ q)).trans (hs q hq)

theorem here (h : ∀ x, f x = o.map (·, x)) : Steady f w :=
  .settled o [] w rfl (by simp) fun q _ => h (w ++ q)

-- The next byte stops the reader.
theorem stop (h : ∀ x, f (b :: x) = o.map (·, b :: x)) : Steady f (b :: w) :=
  .settled o [] (b :: w) rfl (by simp) fun q _ => h (w ++ q)

theorem congr (h : ∀ x, f (b :: x) = g (b :: x)) (hg : Steady g (b :: w)) : Steady f (b :: w) := by
  cases hg
  case ended hp e hf he => exact .ended hp e ((h w).trans hf) he
  case settled o u r hw hp hs => exact .settled o u r hw hp fun q hq => (h (w ++ q)).trans (hs q hq)

theorem nil_error {e : ReadError} (h : f [] = .error e) (he : e ≠ .numberOutOfRange := by simp) :
    Steady f [] :=
  .ended (by simp) e h he

theorem nil_settled (h : ∀ q, EndsNumber q → f q = o.map (·, q)) : Steady f [] :=
  .settled o [] [] rfl (by simp) fun q hq => h q (hq rfl)

-- Digits are passed over, and reading goes on behind them.
theorem dropDigits (hg : ∀ w, Steady g w) (h : ∀ x, f x = g (x.dropWhile isDigit)) : Steady f w := by
  induction w
  case nil =>
    cases hg []
    case ended hp e hf he => exact .nil_error ((h []).trans hf) he
    case settled o u r hw hp hs =>
      have ⟨hu, hr⟩ := List.append_eq_nil_iff.mp hw.symm
      refine .nil_settled (o := o) fun q hq => ?_
      have hd : q.dropWhile isDigit = q := by
        cases q
        case nil => rfl
        case cons b bs => rw [List.dropWhile_cons, hq.digit b bs rfl]; rfl
      have hs := hs q fun _ => hq
      rw [h q, hd]
      rwa [hr] at hs
  case cons b w hi =>
    cases hb : isDigit b
    case false =>
      have hd (x : Bytes) : f (b :: x) = g (b :: x) := by rw [h, List.dropWhile_cons, hb]; rfl
      exact .congr hd (hg (b :: w))
    case true =>
      have hd (x : Bytes) : f (b :: x) = f x := by rw [h, List.dropWhile_cons, hb, h]; rfl
      exact .step (isPassed_of_isDigit hb) hd hi

section Append

variable {v : α} {q : Bytes} (hs : Steady f w)
include hs

theorem passed_of_read (h : f w = .ok (v, [])) : ∀ b ∈ w, IsPassed b := by
  cases hs
  case ended hp e hf he => exact hp
  case settled o u r hw hp hs =>
    have hn := hs [] fun _ => .nil
    simp only [List.append_nil, h] at hn
    cases o <;> cases hn
    rwa [hw, List.append_nil]

-- What comes after a whole number changes nothing, unless there was less than a number.
theorem append (hq : EndsNumber q) :
    (∃ e, e ≠ .numberOutOfRange ∧ f w = .error e) ∨ f (w ++ q) = (f w).map fun (v, r) => (v, r ++ q) := by
  cases hs
  case ended hp e hf he => exact .inl ⟨e, he, hf⟩
  case settled o u r hw hp hs =>
    have hn := hs [] fun _ => .nil
    simp only [List.append_nil] at hn
    rw [hn, hs q fun _ => hq]
    cases o <;> exact .inr rfl

theorem read_append (h : f w = .ok (v, [])) (hq : EndsNumber q) : f (w ++ q) = .ok (v, q) := by
  rcases hs.append hq with ⟨e, -, he⟩ | ha
  · rw [h] at he; contradiction
  · rw [ha, h]; rfl

theorem tooLarge_append (h : f w = .error .numberOutOfRange) (hq : EndsNumber q) :
    f (w ++ q) = .error .numberOutOfRange := by
  rcases hs.append hq with ⟨e, hn, he⟩ | ha
  · rw [h] at he; cases he; contradiction
  · rw [ha, h]; rfl

end Append

end Steady

theorem steady_readWord {word : Bytes} (hp : ∀ b ∈ word, IsPassed b) (w : Bytes) :
    Steady (fun x => (readWord word x).map ((), ·)) w := by
  induction word generalizing w
  case nil => exact .here (o := .ok ()) fun _ => rfl
  case cons c cs hi =>
    cases w
    case nil => exact .nil_error rfl
    case cons b w =>
      by_cases hb : b = c
      case pos =>
        refine .step (hb ▸ hp c List.mem_cons_self) (fun x => ?_)
          (hi (fun x hx => hp x <| List.mem_cons_of_mem c hx) w)
        rw [readWord, if_pos hb]
      case neg =>
        refine .stop (o := .error .expectedLiteral) fun x => ?_
        rw [readWord, if_neg hb]
        rfl

section Numbers

variable (negative : Bool) (significand : Nat) (w : Bytes)

theorem isPassed_of_isExponentMark {b : UInt8} (h : isExponentMark b = true) : IsPassed b := by
  simp only [isExponentMark, Bool.or_eq_true, beq_iff_eq] at h
  rcases h with h | h <;> subst h <;> exact ⟨by decide, by decide⟩

theorem floatBefore_eq (e : Int) :
    floatBefore negative significand e w = (floatOf negative significand e).map (·, w) := rfl

theorem steady_exponentOverflow (expNegative : Bool) :
    Steady (exponentOverflow negative expNegative significand) w := by
  by_cases h : significand ≠ 0 ∧ expNegative = false
  case pos =>
    refine .here (o := .error .numberOutOfRange) fun x => ?_
    rw [exponentOverflow, if_pos h]
    rfl
  case neg =>
    refine .dropDigits (g := fun x => .ok (.float ⟨negative, Binary64.zero⟩, x)) (fun w => ?_) fun x => ?_
    · exact .here (o := .ok _) fun _ => rfl
    · rw [exponentOverflow, if_neg h]

theorem steady_readExponentDigits (start : Int) (expNegative : Bool) (e : Nat) :
    Steady (readExponentDigits negative significand start expNegative e) w := by
  induction w generalizing e
  case nil =>
    refine .nil_settled (o := floatOf negative significand (if expNegative then start - e else start + e))
      fun q hq => ?_
    cases q
    case nil => rfl
    case cons b bs => rw [readExponentDigits, if_neg (by simp [hq.digit b bs rfl]), floatBefore_eq]
  case cons b w hi =>
    by_cases hb : isDigit b = true
    case neg =>
      refine .stop (o := floatOf negative significand (if expNegative then start - e else start + e))
        fun x => ?_
      rw [readExponentDigits, if_neg hb, floatBefore_eq]
    case pos =>
      by_cases hl : e * 10 + digitValue b < Nat.pow 2 31
      case pos =>
        refine .step (isPassed_of_isDigit hb) (fun x => ?_) (hi (e * 10 + digitValue b))
        simp only [readExponentDigits, if_pos hb, if_pos hl]
      case neg =>
        refine .step (isPassed_of_isDigit hb) (fun x => ?_)
          (steady_exponentOverflow negative significand w expNegative)
        simp only [readExponentDigits, if_pos hb, if_neg hl]

-- An exponent whose mark and sign have been read.
def readUnsignedExponent (start : Int) (expNegative : Bool) : Bytes → Read Number
  | [] => .error .eofValue
  | b :: rest =>
    if isDigit b then
      readExponentDigits negative significand start expNegative (digitValue b) rest
    else .error .invalidNumber

theorem steady_readUnsignedExponent (start : Int) (expNegative : Bool) :
    Steady (readUnsignedExponent negative significand start expNegative) w := by
  cases w
  case nil => exact .nil_error rfl
  case cons b w =>
    by_cases hb : isDigit b = true
    case pos =>
      refine .step (isPassed_of_isDigit hb) (fun x => ?_)
        (steady_readExponentDigits negative significand w start expNegative (digitValue b))
      rw [readUnsignedExponent, if_pos hb]
    case neg =>
      refine .stop (o := .error .invalidNumber) fun x => ?_
      rw [readUnsignedExponent, if_neg hb]
      rfl

theorem readExponent_cons (start : Int) (b : UInt8) (x : Bytes) :
    readExponent negative significand start (b :: x) =
      if b = 0x2B then readUnsignedExponent negative significand start false x
      else if b = 0x2D then readUnsignedExponent negative significand start true x
      else readUnsignedExponent negative significand start false (b :: x) := by
  unfold readExponent
  by_cases hp : b = 0x2B
  case pos =>
    simp only [if_pos hp]
    cases x <;> rfl
  case neg =>
    by_cases hm : b = 0x2D
    case pos =>
      simp only [if_neg hp, if_pos hm]
      cases x <;> rfl
    case neg =>
      simp only [if_neg hp, if_neg hm]
      rfl

theorem steady_readExponent (start : Int) : Steady (readExponent negative significand start) w := by
  cases w
  case nil => exact .nil_error rfl
  case cons b w =>
    by_cases hp : b = 0x2B
    case pos =>
      refine .step (hp ▸ ⟨by decide, by decide⟩) (fun x => ?_)
        (steady_readUnsignedExponent negative significand w start false)
      rw [readExponent_cons, if_pos hp]
    case neg =>
      by_cases hm : b = 0x2D
      case pos =>
        refine .step (hm ▸ ⟨by decide, by decide⟩) (fun x => ?_)
          (steady_readUnsignedExponent negative significand w start true)
        rw [readExponent_cons, if_neg hp, if_pos hm]
      case neg =>
        refine .congr (fun x => ?_) (steady_readUnsignedExponent negative significand (b :: w) start false)
        rw [readExponent_cons, if_neg hp, if_neg hm]

theorem steady_readOptionalExponent (e : Int) :
    Steady (readOptionalExponent negative significand e) w := by
  cases w
  case nil =>
    refine .nil_settled (o := floatOf negative significand e) fun q hq => ?_
    cases q
    case nil => rfl
    case cons b bs => rw [readOptionalExponent, if_neg (by simp [hq.mark b bs rfl]), floatBefore_eq]
  case cons b w =>
    by_cases hb : isExponentMark b = true
    case pos =>
      refine .step (isPassed_of_isExponentMark hb) (fun x => ?_)
        (steady_readExponent negative significand w e)
      rw [readOptionalExponent, if_pos hb]
    case neg =>
      refine .stop (o := floatOf negative significand e) fun x => ?_
      rw [readOptionalExponent, if_neg hb, floatBefore_eq]

theorem steady_readFraction (before after : Nat) :
    Steady (readFraction negative significand before after) w := by
  induction w generalizing significand after
  case nil =>
    by_cases ha : after = 0
    case pos =>
      refine .nil_error (e := .eofValue) ?_
      rw [readFraction, if_pos ha]
    case neg =>
      refine .nil_settled (o := floatOf negative significand (before - after)) fun q hq => ?_
      cases q
      case nil => rw [readFraction, if_neg ha, floatBefore_eq]
      case cons b bs =>
        rw [readFraction, if_neg (by simp [hq.digit b bs rfl]), if_neg ha, readOptionalExponent,
          if_neg (by simp [hq.mark b bs rfl]), floatBefore_eq]
  case cons b w hi =>
    by_cases hb : isDigit b = true
    case pos =>
      by_cases hs : significand * 10 + digitValue b ≤ maxSignificand
      case pos =>
        refine .step (isPassed_of_isDigit hb) (fun x => ?_)
          (hi (significand * 10 + digitValue b) (after + 1))
        simp only [readFraction, if_pos hb, if_pos hs]
      case neg =>
        have hd : Steady (fun x => readOptionalExponent negative significand (before - after)
            (x.dropWhile isDigit)) w :=
          .dropDigits (fun w => steady_readOptionalExponent negative significand w _) fun _ => rfl
        refine .step (isPassed_of_isDigit hb) (fun x => ?_) hd
        simp only [readFraction, if_pos hb, if_neg hs]
    case neg =>
      by_cases ha : after = 0
      case pos =>
        refine .stop (o := .error .invalidNumber) fun x => ?_
        rw [readFraction, if_neg hb, if_pos ha]
        rfl
      case neg =>
        refine .congr (fun x => ?_)
          (steady_readOptionalExponent negative significand (b :: w) (before - after))
        rw [readFraction, if_neg hb, if_neg ha]

theorem steady_readLongInteger (e : Nat) : Steady (readLongInteger negative significand e) w := by
  induction w generalizing e
  case nil =>
    refine .nil_settled (o := floatOf negative significand e) fun q hq => ?_
    cases q
    case nil => rfl
    case cons b bs =>
      rw [readLongInteger, if_neg (by simp [hq.digit b bs rfl]), if_neg (hq.point b bs rfl),
        readOptionalExponent, if_neg (by simp [hq.mark b bs rfl]), floatBefore_eq]
  case cons b w hi =>
    by_cases hb : isDigit b = true
    case pos =>
      refine .step (isPassed_of_isDigit hb) (fun x => ?_) (hi (e + 1))
      rw [readLongInteger, if_pos hb]
    case neg =>
      by_cases hp : b = 0x2E
      case pos =>
        refine .step (hp ▸ ⟨by decide, by decide⟩) (fun x => ?_)
          (steady_readFraction negative significand w e 0)
        rw [readLongInteger, if_neg hb, if_pos hp]
      case neg =>
        refine .congr (fun x => ?_) (steady_readOptionalExponent negative significand (b :: w) e)
        rw [readLongInteger, if_neg hb, if_neg hp]

theorem steady_readAfterInteger : Steady (readAfterInteger negative significand) w := by
  cases w
  case nil =>
    exact .nil_settled (o := .ok (integerOf negative significand)) fun q hq =>
      readAfterInteger_ended negative significand hq
  case cons b w =>
    by_cases hp : b = 0x2E
    case pos =>
      refine .step (hp ▸ ⟨by decide, by decide⟩) (fun x => ?_)
        (steady_readFraction negative significand w 0 0)
      rw [readAfterInteger, if_pos hp]
    case neg =>
      by_cases hb : isExponentMark b = true
      case pos =>
        refine .step (isPassed_of_isExponentMark hb) (fun x => ?_)
          (steady_readExponent negative significand w 0)
        rw [readAfterInteger, if_neg hp, if_pos hb]
      case neg =>
        refine .stop (o := .ok (integerOf negative significand)) fun x => ?_
        rw [readAfterInteger, if_neg hp, if_neg hb]
        rfl

theorem steady_readIntegerDigits : Steady (readIntegerDigits negative significand) w := by
  induction w generalizing significand
  case nil =>
    refine .nil_settled (o := .ok (integerOf negative significand)) fun q hq => ?_
    cases q
    case nil => rfl
    case cons b bs =>
      rw [readIntegerDigits, if_neg (by simp [hq.digit b bs rfl]), readAfterInteger_ended negative _ hq]
      rfl
  case cons b w hi =>
    by_cases hb : isDigit b = true
    case pos =>
      by_cases hs : significand * 10 + digitValue b ≤ maxSignificand
      case pos =>
        refine .step (isPassed_of_isDigit hb) (fun x => ?_) (hi (significand * 10 + digitValue b))
        simp only [readIntegerDigits, if_pos hb, if_pos hs]
      case neg =>
        refine .step (isPassed_of_isDigit hb) (fun x => ?_)
          (steady_readLongInteger negative significand w 1)
        simp only [readIntegerDigits, if_pos hb, if_neg hs]
    case neg =>
      refine .congr (fun x => ?_) (steady_readAfterInteger negative significand (b :: w))
      rw [readIntegerDigits, if_neg hb]

-- What follows a zero in front: it must not be a digit.
def afterZero {β : Type} (f : Bytes → Except ReadError β) : Bytes → Except ReadError β
  | [] => f []
  | b :: rest => if isDigit b then .error .invalidNumber else f (b :: rest)

theorem steady_afterZero {α : Type} {f : Bytes → Read α} (h : ∀ w, Steady f w) :
    Steady (afterZero f) w := by
  cases w
  case nil =>
    cases h []
    case ended hp e hf he => exact .nil_error hf he
    case settled o u r hw hp hs =>
      have ⟨hu, hr⟩ := List.append_eq_nil_iff.mp hw.symm
      refine .nil_settled (o := o) fun q hq => ?_
      have hs := hs q fun _ => hq
      rw [hr, List.nil_append] at hs
      cases q
      case nil => exact hs
      case cons b bs => rw [afterZero, if_neg (by simp [hq.digit b bs rfl])]; exact hs
  case cons b w =>
    by_cases hb : isDigit b = true
    case pos =>
      refine .stop (o := .error .invalidNumber) fun x => ?_
      rw [afterZero, if_pos hb]
      rfl
    case neg =>
      refine .congr (fun x => ?_) (h (b :: w))
      rw [afterZero, if_neg hb]

theorem readNumber_cons (b : UInt8) (x : Bytes) :
    readNumber negative (b :: x) =
      if b = 0x30 then afterZero (readAfterInteger negative 0) x
      else if isDigit b then readIntegerDigits negative (digitValue b) x
      else .error .invalidNumber := by
  rw [readNumber.eq_def]
  cases x <;> rfl

theorem steady_readNumber : Steady (readNumber negative) w := by
  cases w
  case nil => exact .nil_error rfl
  case cons b w =>
    by_cases hz : b = 0x30
    case pos =>
      refine .step (hz ▸ ⟨by decide, by decide⟩) (fun x => ?_)
        (steady_afterZero w (steady_readAfterInteger negative 0))
      rw [readNumber_cons, if_pos hz]
    case neg =>
      by_cases hb : isDigit b = true
      case pos =>
        refine .step (isPassed_of_isDigit hb) (fun x => ?_)
          (steady_readIntegerDigits negative (digitValue b) w)
        rw [readNumber_cons, if_neg hz, if_pos hb]
      case neg =>
        refine .stop (o := .error .invalidNumber) fun x => ?_
        rw [readNumber_cons, if_neg hz, if_neg hb]
        rfl

end Numbers

end AccessControl.Json
