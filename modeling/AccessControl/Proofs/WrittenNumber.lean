import AccessControl.Proofs.PassedNumber

namespace AccessControl

namespace Decimal

-- A decimal that no layout writes with a zero in front of other digits.
def IsProper (d : Decimal) : Prop :=
  d.digits ≠ 0 ∨ d.exponent = 0

theorem Interval.neighbour?_ne_zero {i : Interval} {p : Int} {n : Nat} (h : i.neighbour? p = some n) : n ≠ 0 := by
  unfold neighbour? at h
  dsimp only at h
  generalize Binary64.roundQuotient _ _ = nearest at h
  generalize (if nearest = _ then _ else _) = other at h
  split at h
  case isTrue hn =>
    cases h
    exact of_decide_eq_true (Bool.and_eq_true_iff.mp hn).left
  case isFalse =>
    split at h
    case isTrue ho =>
      cases h
      exact of_decide_eq_true (Bool.and_eq_true_iff.mp ho).left
    case isFalse => contradiction

theorem Interval.shortest_isProper (i : Interval) (k : Int) (count fuel : Nat) :
    (i.shortest k count fuel).IsProper := by
  induction fuel generalizing count
  case zero => exact .inr rfl
  case succ fuel hi =>
    rw [shortest]
    split
    case h_1 n hn => exact .inl (neighbour?_ne_zero hn)
    case h_2 => exact hi (count + 1)

theorem trimZeros_isProper {d : Decimal} (h : d.IsProper) (fuel : Nat) : (d.trimZeros fuel).IsProper := by
  induction fuel generalizing d
  case zero => exact h
  case succ fuel hi =>
    rw [trimZeros]
    split
    case isTrue hz =>
      have hn : d.digits / 10 ≠ 0 := by omega
      exact hi (.inl hn)
    case isFalse => exact h

theorem shortest_isProper (x : Fin Binary64.infinityBits) : (shortest x).IsProper :=
  trimZeros_isProper (Interval.shortest_isProper ..) 20

end Decimal

namespace Json

open Utf8

def AreDigits (ds : Bytes) : Prop :=
  ∀ b ∈ ds, isDigit b = true

-- The digits of an integer: a zero stands first only if it stands alone.
structure IsInteger (ds : Bytes) : Prop where
  digits : AreDigits ds
  leads : ds = [0x30] ∨ ∃ b bs, ds = b :: bs ∧ b ≠ 0x30

section Bytes

variable {i f e w : Bytes} {sign : UInt8}

-- The digits end here.
def EndsDigits (w : Bytes) : Prop :=
  ∀ b bs, w = b :: bs → isDigit b = false

theorem endsDigits_nil : EndsDigits [] := nofun

theorem endsDigits_cons {b : UInt8} (h : isDigit b = false) (w : Bytes) : EndsDigits (b :: w) := by
  rintro c bs ⟨⟩
  exact h

theorem AreDigits.dropWhile_append (h : AreDigits i) (hw : EndsDigits w) : (i ++ w).dropWhile isDigit = w := by
  rw [List.dropWhile_append_of_pos h]
  cases w
  case nil => rfl
  case cons b bs => simp [hw b bs rfl]

theorem skipExponent_signed (hs : sign = 0x2B ∨ sign = 0x2D) (he : AreDigits e) (hn : e ≠ []) :
    skipExponent (sign :: e) = .ok [] := by
  have ⟨b, bs, hb⟩ := List.exists_cons_of_ne_nil hn
  have ⟨hd, ht⟩ := List.forall_mem_cons.mp (hb ▸ he)
  have hw := AreDigits.dropWhile_append ht endsDigits_nil
  rw [List.append_nil] at hw
  rw [skipExponent_cons, if_pos hs, hb, skipUnsignedExponent, if_pos hd, hw]

theorem skipFraction_digits (hf : AreDigits f) (hn : f ≠ []) (hw : EndsDigits w) :
    skipFraction (f ++ w) = skipOptionalExponent w := by
  have ⟨b, bs, hb⟩ := List.exists_cons_of_ne_nil hn
  have ⟨hd, ht⟩ := List.forall_mem_cons.mp (hb ▸ hf)
  rw [hb, List.cons_append, skipFraction_cons, if_pos hd, AreDigits.dropWhile_append ht hw]

theorem IsInteger.skipNumber_append (h : IsInteger i) (hw : EndsDigits w) :
    skipNumber (i ++ w) = skipAfterInteger w := by
  rcases h.leads with hz | ⟨b, bs, hb, hz⟩
  · rw [hz, List.singleton_append, skipNumber_cons, if_pos rfl]
    cases w
    case nil => rfl
    case cons c cs => simp [afterZero, hw c cs rfl]
  · obtain ⟨hd, ht⟩ := List.forall_mem_cons.mp (hb ▸ h.digits)
    rw [hb, List.cons_append, skipNumber_cons, if_neg hz, if_pos hd, AreDigits.dropWhile_append ht hw]

theorem skipNumber_integer (hi : IsInteger i) : skipNumber i = .ok [] := by
  have hs := hi.skipNumber_append endsDigits_nil
  rwa [List.append_nil] at hs

theorem skipNumber_fraction (hi : IsInteger i) (hf : AreDigits f) (hn : f ≠ []) (hw : EndsDigits w) :
    skipNumber (i ++ 0x2E :: (f ++ w)) = skipOptionalExponent w := by
  rw [hi.skipNumber_append (endsDigits_cons rfl _), ← skipFraction_digits hf hn hw]
  rfl

theorem skipNumber_exponent (hi : IsInteger i) (hs : sign = 0x2B ∨ sign = 0x2D) (he : AreDigits e)
    (hn : e ≠ []) : skipNumber (i ++ 0x65 :: sign :: e) = .ok [] := by
  rw [hi.skipNumber_append (endsDigits_cons rfl _), ← skipExponent_signed hs he hn]
  rfl

end Bytes

def AreDigitChars (cs : List Char) : Prop :=
  ∀ c ∈ cs, c.isDigit = true

theorem areDigitChars_toDigits (n : Nat) : AreDigitChars (Nat.toDigits 10 n) := fun _ h =>
  Nat.isDigit_of_mem_toDigits (by decide) (by decide) h

theorem areDigitChars_zeros (n : Nat) : AreDigitChars (NumberLayout.zeros n) := fun _ h =>
  List.eq_of_mem_replicate h ▸ rfl

theorem AreDigitChars.append {cs ds : List Char} (hc : AreDigitChars cs) (hd : AreDigitChars ds) :
    AreDigitChars (cs ++ ds) :=
  List.forall_mem_append.mpr ⟨hc, hd⟩

theorem AreDigitChars.encode {cs : List Char} (h : AreDigitChars cs) : AreDigits (encode cs) := by
  intro b hb
  have ⟨c, hc, hm⟩ := List.mem_flatMap.mp hb
  have ⟨d, he, hd, _⟩ := encode_digit (h c hc)
  rw [he] at hm
  exact List.mem_singleton.mp hm ▸ hd

theorem encode_ne_nil {cs : List Char} (h : AreDigitChars cs) (hn : cs ≠ []) : encode cs ≠ [] := by
  have ⟨c, ds, hc⟩ := List.exists_cons_of_ne_nil hn
  have ⟨b, he, _⟩ := encode_digit (h c (hc ▸ List.mem_cons_self))
  rw [hc, encode_cons, he]
  exact List.cons_ne_nil b _

theorem isInteger_digit {c : Char} (h : c.isDigit = true) : IsInteger (encode [c]) where
  digits := AreDigitChars.encode (by simpa [AreDigitChars] using h)
  leads := by
    have ⟨b, he, _, _, hz⟩ := encode_digit h
    have hw : encode [c] = [b] := by rw [encode_cons, he]; rfl
    by_cases hb : b = 0x30
    case pos => exact .inl (hb ▸ hw)
    case neg => exact .inr ⟨b, [], hw, hb⟩

theorem isInteger_encode {c : Char} {cs : List Char} (h : AreDigitChars (c :: cs)) (hz : c ≠ '0') :
    IsInteger (encode (c :: cs)) where
  digits := h.encode
  leads := by
    have ⟨b, he, _, _, hb⟩ := encode_digit (h c List.mem_cons_self)
    exact .inr ⟨b, encode cs, by rw [encode_cons, he]; rfl, hb hz⟩

theorem isInteger_toDigits (n : Nat) : IsInteger (encode (Nat.toDigits 10 n)) := by
  cases n
  case zero => exact isInteger_digit rfl
  case succ n =>
    have ⟨c, cs, he, hz⟩ := toDigits_eq_cons (Nat.succ_pos n)
    exact he ▸ isInteger_encode (he ▸ areDigitChars_toDigits (n + 1)) hz

theorem encode_point (cs : List Char) : encode ('.' :: cs) = 0x2E :: encode cs := rfl

theorem skipNumber_positional {cs ds : List Char} (hi : IsInteger (encode cs)) (hf : AreDigitChars ds)
    (hn : ds ≠ []) : skipNumber (encode (cs ++ '.' :: ds)) = .ok [] := by
  have hs := skipNumber_fraction hi hf.encode (encode_ne_nil hf hn) endsDigits_nil
  rwa [List.append_nil, ← encode_point, ← encode_append] at hs

theorem isInteger_zeros {d : Decimal} (h : d.IsProper) :
    IsInteger (encode (Nat.toDigits 10 d.digits ++ NumberLayout.zeros d.exponent.toNat)) := by
  rcases h with hn | hz
  · have ⟨c, cs, he, hc⟩ := toDigits_eq_cons (Nat.pos_of_ne_zero hn)
    have hd := (areDigitChars_toDigits d.digits).append (areDigitChars_zeros d.exponent.toNat)
    rw [he, List.cons_append] at hd ⊢
    exact isInteger_encode hd hc
  · have hw : NumberLayout.zeros d.exponent.toNat = [] := by rw [hz]; rfl
    rw [hw, List.append_nil]
    exact isInteger_toDigits d.digits

-- The digits of a decimal, with the point among them.
theorem skipNumber_split {d : Decimal} (hn : d.digits ≠ 0) {k : Nat} (hk : k + 1 < (Nat.toDigits 10 d.digits).length) :
    skipNumber (encode ((Nat.toDigits 10 d.digits).take (k + 1) ++ '.' ::
      (Nat.toDigits 10 d.digits).drop (k + 1))) = .ok [] := by
  have ⟨c, cs, he, hc⟩ := toDigits_eq_cons (Nat.pos_of_ne_zero hn)
  have hd := areDigitChars_toDigits d.digits
  rw [he] at hd hk ⊢
  refine skipNumber_positional (isInteger_encode (fun x hx => ?_) hc) (fun x hx => hd x <| List.mem_of_mem_drop hx) ?_
  · exact hd x <| List.mem_of_mem_take (i := k + 1) hx
  · exact List.ne_nil_of_length_pos (by rw [List.length_drop]; omega)

-- The digits of a decimal with an exponent after them, and with a point after the first of several.
theorem skipNumber_scientific (n : Nat) {e : Int} {sign : Char} (hs : sign = '+' ∨ sign = '-') :
    skipNumber (encode ((match Nat.toDigits 10 n with
      | [d] => [d]
      | d :: rest => d :: '.' :: rest
      | [] => []) ++ 'e' :: [sign] ++ Nat.toDigits 10 e.natAbs)) = .ok [] := by
  have hd := areDigitChars_toDigits n
  have he := (areDigitChars_toDigits e.natAbs).encode
  have hn := encode_ne_nil (areDigitChars_toDigits e.natAbs) Nat.toDigits_ne_nil
  have ⟨b, hb, hw⟩ : ∃ b, (b = 0x2B ∨ b = 0x2D) ∧
      encode ('e' :: [sign] ++ Nat.toDigits 10 e.natAbs) = 0x65 :: b :: encode (Nat.toDigits 10 e.natAbs) := by
    rcases hs with rfl | rfl
    · exact ⟨0x2B, .inl rfl, rfl⟩
    · exact ⟨0x2D, .inr rfl, rfl⟩
  rw [List.append_assoc, encode_append, hw]
  match hm : Nat.toDigits 10 n with
  | [] => exact absurd hm Nat.toDigits_ne_nil
  | [c] =>
    have hc : c.isDigit = true := hd c (hm ▸ List.mem_cons_self)
    exact skipNumber_exponent (isInteger_digit hc) hb he hn
  | c :: c' :: cs =>
    have ⟨hc, hr⟩ := List.forall_mem_cons.mp (hm ▸ hd)
    have hf : AreDigits (encode (c' :: cs)) := AreDigitChars.encode hr
    have hi := isInteger_digit hc
    show skipNumber (encode ([c] ++ '.' :: c' :: cs) ++ _) = _
    rw [encode_append, encode_point, List.append_assoc, List.cons_append,
      skipNumber_fraction hi hf (encode_ne_nil hr (List.cons_ne_nil c' cs)) (endsDigits_cons rfl _),
      ← skipExponent_signed hb he hn]
    rfl

-- The point stands behind the digits, among them or in front of them, or there is an exponent.
theorem skipNumber_positive {d : Decimal} (h : d.IsProper) :
    skipNumber (encode (numberLayout.positive d)) = .ok [] := by
  have hd := areDigitChars_toDigits d.digits
  have hn : Nat.toDigits 10 d.digits ≠ [] := Nat.toDigits_ne_nil
  unfold NumberLayout.positive
  dsimp only
  split_ifs with hp hb ha hs
  · exact skipNumber_positional (isInteger_zeros h) (areDigitChars_zeros 1) (List.cons_ne_nil '0' [])
  · have hz : d.digits ≠ 0 := h.resolve_right (by omega)
    exact skipNumber_split hz (by omega)
  · have hf := (areDigitChars_zeros (-(d.exponent + (Nat.toDigits 10 d.digits).length - 1) - 1).toNat).append hd
    exact skipNumber_positional (isInteger_digit (c := '0') rfl) hf (List.append_ne_nil_of_right_ne_nil _ hn)
  · exact skipNumber_scientific d.digits (.inr rfl)
  · exact skipNumber_scientific d.digits (.inl rfl)

theorem skipNumber_text (x : Binary64) :
    ∃ w, skipNumber w = .ok [] ∧ (encode (numberLayout.text x) = w ∨ encode (numberLayout.text x) = 0x2D :: w) := by
  unfold NumberLayout.text
  generalize hd : (if x.magnitude.val = 0 then ['0', '.', '0'] else
    numberLayout.positive (Decimal.shortest x.magnitude)) = digits
  have hs : skipNumber (encode digits) = .ok [] := by
    subst hd
    split
    case isTrue => rfl
    case isFalse => exact skipNumber_positive (Decimal.shortest_isProper _)
  refine ⟨encode digits, hs, ?_⟩
  dsimp only
  split
  case isTrue => exact .inr rfl
  case isFalse => exact .inl rfl

-- A number is written as its digits, with a minus in front of those of a negative one.
theorem skipNumber_chars (n : Number) :
    ∃ w, skipNumber w = .ok [] ∧ (encode n.chars = w ∨ encode n.chars = 0x2D :: w) := by
  cases n
  case integer i =>
    cases i
    case ofNat n => exact ⟨_, skipNumber_integer (isInteger_toDigits n), .inl rfl⟩
    case negSucc n => exact ⟨_, skipNumber_integer (isInteger_toDigits (n + 1)), .inr rfl⟩
  case float x => exact skipNumber_text x

end Json
end AccessControl
