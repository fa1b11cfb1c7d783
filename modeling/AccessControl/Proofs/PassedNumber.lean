import AccessControl.Proofs.Steady

namespace AccessControl.Json

-- Reading came to a number, with `r` after it, or to one that is too large to hold.
inductive Reaches (r : Bytes) : Read Number → Prop
  | number (n : Number) : Reaches r (.ok (n, r))
  | tooLarge : Reaches r (.error .numberOutOfRange)

section Skip

variable (w : Bytes)

-- A reader that keeps nothing.
def passing (f : Bytes → Except ReadError Bytes) (x : Bytes) : Read Unit :=
  (f x).map ((), ·)

def skipUnsignedExponent : Bytes → Except ReadError Bytes
  | [] => .error .invalidNumber
  | b :: rest => if isDigit b then .ok (rest.dropWhile isDigit) else .error .invalidNumber

theorem steady_skipUnsignedExponent : Steady (passing skipUnsignedExponent) w := by
  cases w
  case nil => exact .nil_error rfl
  case cons b w =>
    by_cases hb : isDigit b = true
    case pos =>
      have hd : Steady (fun x => .ok ((), x.dropWhile isDigit)) w :=
        .dropDigits (g := fun x => .ok ((), x)) (fun w => .here (o := .ok ()) fun _ => rfl) fun _ => rfl
      refine .step (isPassed_of_isDigit hb) (fun x => ?_) hd
      rw [passing, skipUnsignedExponent, if_pos hb]
      rfl
    case neg =>
      refine .stop (o := .error .invalidNumber) fun x => ?_
      rw [passing, skipUnsignedExponent, if_neg hb]
      rfl

theorem skipExponent_cons (b : UInt8) (x : Bytes) :
    skipExponent (b :: x) =
      if b = 0x2B ∨ b = 0x2D then skipUnsignedExponent x else skipUnsignedExponent (b :: x) := by
  unfold skipExponent
  by_cases hs : b = 0x2B ∨ b = 0x2D
  case pos =>
    simp only [if_pos hs]
    cases x <;> rfl
  case neg =>
    simp only [if_neg hs]
    rfl

theorem steady_skipExponent : Steady (passing skipExponent) w := by
  cases w
  case nil => exact .nil_error rfl
  case cons b w =>
    by_cases hs : b = 0x2B ∨ b = 0x2D
    case pos =>
      have hp : IsPassed b := by rcases hs with hs | hs <;> subst hs <;> exact ⟨by decide, by decide⟩
      refine .step hp (fun x => ?_) (steady_skipUnsignedExponent w)
      rw [passing, passing, skipExponent_cons, if_pos hs]
    case neg =>
      refine .congr (fun x => ?_) (steady_skipUnsignedExponent (b :: w))
      rw [passing, passing, skipExponent_cons, if_neg hs]

-- What may follow the digits of a fraction.
def skipOptionalExponent : Bytes → Except ReadError Bytes
  | [] => .ok []
  | b :: rest => if isExponentMark b then skipExponent rest else .ok (b :: rest)

theorem steady_skipOptionalExponent : Steady (passing skipOptionalExponent) w := by
  cases w
  case nil =>
    refine .nil_settled (o := .ok ()) fun q hq => ?_
    cases q
    case nil => rfl
    case cons b bs =>
      rw [passing, skipOptionalExponent, if_neg (by simp [hq.mark b bs rfl])]
      rfl
  case cons b w =>
    by_cases hb : isExponentMark b = true
    case pos =>
      refine .step (isPassed_of_isExponentMark hb) (fun x => ?_) (steady_skipExponent w)
      rw [passing, passing, skipOptionalExponent, if_pos hb]
    case neg =>
      refine .stop (o := .ok ()) fun x => ?_
      rw [passing, skipOptionalExponent, if_neg hb]
      rfl

theorem skipFraction_cons (b : UInt8) (x : Bytes) :
    skipFraction (b :: x) =
      if isDigit b then skipOptionalExponent (x.dropWhile isDigit) else .error .invalidNumber := by
  rw [skipFraction]
  split
  case isTrue => cases x.dropWhile isDigit <;> rfl
  case isFalse => rfl

theorem steady_skipFraction : Steady (passing skipFraction) w := by
  cases w
  case nil => exact .nil_error rfl
  case cons b w =>
    by_cases hb : isDigit b = true
    case pos =>
      have hd : Steady (fun x => passing skipOptionalExponent (x.dropWhile isDigit)) w :=
        .dropDigits steady_skipOptionalExponent fun _ => rfl
      refine .step (isPassed_of_isDigit hb) (fun x => ?_) hd
      rw [passing, passing, skipFraction_cons, if_pos hb]
    case neg =>
      refine .stop (o := .error .invalidNumber) fun x => ?_
      rw [passing, skipFraction_cons, if_neg hb]
      rfl

theorem steady_skipAfterInteger : Steady (passing skipAfterInteger) w := by
  cases w
  case nil =>
    refine .nil_settled (o := .ok ()) fun q hq => ?_
    cases q
    case nil => rfl
    case cons b bs =>
      rw [passing, skipAfterInteger, if_neg (hq.point b bs rfl), if_neg (by simp [hq.mark b bs rfl])]
      rfl
  case cons b w =>
    by_cases hp : b = 0x2E
    case pos =>
      refine .step (hp ▸ ⟨by decide, by decide⟩) (fun x => ?_) (steady_skipFraction w)
      rw [passing, passing, skipAfterInteger, if_pos hp]
    case neg =>
      by_cases hb : isExponentMark b = true
      case pos =>
        refine .step (isPassed_of_isExponentMark hb) (fun x => ?_) (steady_skipExponent w)
        rw [passing, passing, skipAfterInteger, if_neg hp, if_pos hb]
      case neg =>
        refine .stop (o := .ok ()) fun x => ?_
        rw [passing, skipAfterInteger, if_neg hp, if_neg hb]
        rfl

theorem skipNumber_cons (b : UInt8) (x : Bytes) :
    skipNumber (b :: x) =
      if b = 0x30 then afterZero skipAfterInteger x
      else if isDigit b then skipAfterInteger (x.dropWhile isDigit)
      else .error .invalidNumber := by
  rw [skipNumber.eq_def]
  cases x <;> rfl

theorem steady_skipNumber : Steady (passing skipNumber) w := by
  cases w
  case nil => exact .nil_error rfl
  case cons b w =>
    by_cases hz : b = 0x30
    case pos =>
      have hs : Steady (afterZero (passing skipAfterInteger)) w := steady_afterZero w steady_skipAfterInteger
      refine .step (hz ▸ ⟨by decide, by decide⟩) (fun x => ?_) hs
      rw [passing, skipNumber_cons, if_pos hz]
      cases x
      case nil => rfl
      case cons c x =>
        rw [afterZero, afterZero]
        split <;> rfl
    case neg =>
      by_cases hb : isDigit b = true
      case pos =>
        have hd : Steady (fun x => passing skipAfterInteger (x.dropWhile isDigit)) w :=
          .dropDigits steady_skipAfterInteger fun _ => rfl
        refine .step (isPassed_of_isDigit hb) (fun x => ?_) hd
        rw [passing, passing, skipNumber_cons, if_neg hz, if_pos hb]
      case neg =>
        refine .stop (o := .error .invalidNumber) fun x => ?_
        rw [passing, skipNumber_cons, if_neg hz, if_neg hb]
        rfl

end Skip

theorem scale_error {x : Fin Binary64.infinityBits} {e : Int} {fuel : Nat} {err : ReadError}
    (h : scale x e fuel = .error err) : err = .numberOutOfRange := by
  induction fuel generalizing x e
  case zero => contradiction
  case succ fuel hi =>
    rw [scale] at h
    split at h
    case isTrue =>
      split at h
      case isTrue =>
        split at h
        case h_1 => contradiction
        case h_2 => exact (Except.error.inj h).symm
      case isFalse => contradiction
    case isFalse =>
      split at h
      case isTrue => contradiction
      case isFalse =>
        split at h
        case isTrue => exact (Except.error.inj h).symm
        case isFalse => exact hi h

section Reaches

variable (negative : Bool) (significand : Nat) {w r : Bytes}

theorem reaches_floatBefore (e : Int) (w : Bytes) : Reaches w (floatBefore negative significand e w) := by
  rw [floatBefore]
  cases h : floatOf negative significand e
  case ok n => exact .number n
  case error err =>
    have he : err = .numberOutOfRange := by
      rw [floatOf] at h
      split at h
      case h_1 => contradiction
      case h_2 e hs => exact Except.error.inj h ▸ scale_error hs
    subst he
    exact .tooLarge

theorem reaches_exponentOverflow (expNegative : Bool) (w : Bytes) :
    Reaches (w.dropWhile isDigit) (exponentOverflow negative expNegative significand w) := by
  rw [exponentOverflow]
  split
  case isTrue => exact .tooLarge
  case isFalse => exact .number _

theorem reaches_readExponentDigits (start : Int) (expNegative : Bool) (e : Nat) (w : Bytes) :
    Reaches (w.dropWhile isDigit) (readExponentDigits negative significand start expNegative e w) := by
  induction w generalizing e
  case nil => exact reaches_floatBefore negative significand _ []
  case cons b w hi =>
    rw [readExponentDigits, List.dropWhile_cons]
    split
    case isTrue =>
      dsimp only
      split
      case isTrue => exact hi _
      case isFalse => exact reaches_exponentOverflow negative significand expNegative w
    case isFalse => exact reaches_floatBefore negative significand _ (b :: w)

theorem reaches_readUnsignedExponent (start : Int) (expNegative : Bool)
    (h : skipUnsignedExponent w = .ok r) :
    Reaches r (readUnsignedExponent negative significand start expNegative w) := by
  cases w
  case nil => contradiction
  case cons b w =>
    rw [skipUnsignedExponent] at h
    rw [readUnsignedExponent]
    split at h
    case isTrue hb =>
      cases h
      rw [if_pos hb]
      exact reaches_readExponentDigits negative significand start expNegative _ w
    case isFalse => contradiction

theorem reaches_readExponent (start : Int) (h : skipExponent w = .ok r) :
    Reaches r (readExponent negative significand start w) := by
  cases w
  case nil => contradiction
  case cons b w =>
    rw [skipExponent_cons] at h
    rw [readExponent_cons]
    by_cases hp : b = 0x2B
    case pos =>
      rw [if_pos (.inl hp)] at h
      rw [if_pos hp]
      exact reaches_readUnsignedExponent negative significand start false h
    case neg =>
      rw [if_neg hp]
      by_cases hm : b = 0x2D
      case pos =>
        rw [if_pos (.inr hm)] at h
        rw [if_pos hm]
        exact reaches_readUnsignedExponent negative significand start true h
      case neg =>
        rw [if_neg (by simp [hp, hm])] at h
        rw [if_neg hm]
        exact reaches_readUnsignedExponent negative significand start false h

theorem reaches_readOptionalExponent (e : Int) (h : skipOptionalExponent w = .ok r) :
    Reaches r (readOptionalExponent negative significand e w) := by
  cases w
  case nil =>
    cases h
    exact reaches_floatBefore negative significand e []
  case cons b w =>
    rw [skipOptionalExponent] at h
    rw [readOptionalExponent]
    split at h
    case isTrue hb => exact if_pos hb ▸ reaches_readExponent negative significand e h
    case isFalse hb =>
      cases h
      exact if_neg hb ▸ reaches_floatBefore negative significand e (b :: w)

-- The digits of a fraction after the first one.
theorem reaches_readFraction_more (before : Nat) {after : Nat} (ha : after ≠ 0)
    (h : skipOptionalExponent (w.dropWhile isDigit) = .ok r) :
    Reaches r (readFraction negative significand before after w) := by
  induction w generalizing significand after
  case nil =>
    cases h
    rw [readFraction, if_neg ha]
    exact reaches_floatBefore negative significand _ []
  case cons b w hi =>
    rw [List.dropWhile_cons] at h
    rw [readFraction]
    split at h
    case isTrue hb =>
      rw [if_pos hb]
      dsimp only
      split
      case isTrue => exact hi _ (Nat.succ_ne_zero after) h
      case isFalse => exact reaches_readOptionalExponent negative significand _ h
    case isFalse hb =>
      rw [if_neg hb, if_neg ha]
      exact reaches_readOptionalExponent negative significand _ h

theorem reaches_readFraction (before : Nat) (h : skipFraction w = .ok r) :
    Reaches r (readFraction negative significand before 0 w) := by
  cases w
  case nil => contradiction
  case cons b w =>
    rw [skipFraction_cons] at h
    rw [readFraction]
    split at h
    case isTrue hb =>
      rw [if_pos hb]
      dsimp only
      split
      case isTrue => exact reaches_readFraction_more negative _ before Nat.one_ne_zero h
      case isFalse => exact reaches_readOptionalExponent negative significand _ h
    case isFalse => contradiction

theorem skipAfterInteger_cons (b : UInt8) (x : Bytes) :
    skipAfterInteger (b :: x) = if b = 0x2E then skipFraction x else skipOptionalExponent (b :: x) := rfl

theorem reaches_readLongInteger (e : Nat) (h : skipAfterInteger (w.dropWhile isDigit) = .ok r) :
    Reaches r (readLongInteger negative significand e w) := by
  induction w generalizing e
  case nil =>
    cases h
    exact reaches_floatBefore negative significand e []
  case cons b w hi =>
    rw [List.dropWhile_cons] at h
    rw [readLongInteger]
    split at h
    case isTrue hb =>
      rw [if_pos hb]
      exact hi (e + 1) h
    case isFalse hb =>
      rw [if_neg hb]
      rw [skipAfterInteger_cons] at h
      split at h
      case isTrue hp =>
        rw [if_pos hp]
        exact reaches_readFraction negative significand e h
      case isFalse hp =>
        rw [if_neg hp]
        exact reaches_readOptionalExponent negative significand e h

theorem reaches_readAfterInteger (h : skipAfterInteger w = .ok r) :
    Reaches r (readAfterInteger negative significand w) := by
  cases w
  case nil =>
    cases h
    exact .number _
  case cons b w =>
    rw [skipAfterInteger] at h
    rw [readAfterInteger]
    split at h
    case isTrue hp =>
      rw [if_pos hp]
      exact reaches_readFraction negative significand 0 h
    case isFalse hp =>
      rw [if_neg hp]
      split at h
      case isTrue hb =>
        rw [if_pos hb]
        exact reaches_readExponent negative significand 0 h
      case isFalse hb =>
        cases h
        rw [if_neg hb]
        exact .number _

theorem reaches_readIntegerDigits (h : skipAfterInteger (w.dropWhile isDigit) = .ok r) :
    Reaches r (readIntegerDigits negative significand w) := by
  induction w generalizing significand
  case nil =>
    cases h
    exact .number _
  case cons b w hi =>
    rw [List.dropWhile_cons] at h
    rw [readIntegerDigits]
    split at h
    case isTrue hb =>
      rw [if_pos hb]
      dsimp only
      split
      case isTrue => exact hi _ h
      case isFalse => exact reaches_readLongInteger negative significand 1 h
    case isFalse hb =>
      rw [if_neg hb]
      exact reaches_readAfterInteger negative significand h

theorem reaches_readNumber (h : skipNumber w = .ok r) : Reaches r (readNumber negative w) := by
  cases w
  case nil => contradiction
  case cons b w =>
    rw [skipNumber_cons] at h
    rw [readNumber_cons]
    split at h
    case isTrue hz =>
      rw [if_pos hz]
      cases w
      case nil => exact reaches_readAfterInteger negative 0 (w := []) h
      case cons c w =>
        rw [afterZero] at h
        rw [afterZero]
        split at h
        case isTrue => contradiction
        case isFalse hc =>
          rw [if_neg hc]
          exact reaches_readAfterInteger negative 0 h
    case isFalse hz =>
      rw [if_neg hz]
      split at h
      case isTrue hb =>
        rw [if_pos hb]
        exact reaches_readIntegerDigits negative _ h
      case isFalse => contradiction

end Reaches

section Whole

variable {w q : Bytes} (h : skipNumber w = .ok [])
include h

theorem passing_of_skipNumber : passing skipNumber w = .ok ((), []) := by
  rw [passing, h]
  rfl

theorem passed_of_skipNumber : ∀ b ∈ w, IsPassed b :=
  (steady_skipNumber w).passed_of_read <| passing_of_skipNumber h

theorem skipNumber_append (hq : EndsNumber q) : skipNumber (w ++ q) = .ok q := by
  have ha := (steady_skipNumber w).read_append (passing_of_skipNumber h) hq
  rw [passing] at ha
  cases hs : skipNumber (w ++ q) <;> rw [hs] at ha <;> cases ha
  rfl

theorem readNumber_append (negative : Bool) (hq : EndsNumber q) :
    (readNumber negative (w ++ q)).map Prod.fst = (readNumber negative w).map Prod.fst := by
  have hs := steady_readNumber negative w
  have hr := reaches_readNumber negative h
  cases hn : readNumber negative w <;> rw [hn] at hr <;> cases hr
  case tooLarge => rw [hs.tooLarge_append hn hq]
  case number => rw [hs.read_append hn hq]; rfl

end Whole

end AccessControl.Json
