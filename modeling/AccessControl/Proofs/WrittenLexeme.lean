import AccessControl.Json.Lexeme
import AccessControl.Json.Writer
import AccessControl.Proofs.Utf8

namespace AccessControl.Json

open Utf8

-- A byte that stands for itself inside of a string.
structure IsPlain (b : UInt8) : Prop where
  quote : b ≠ 0x22
  backslash : b ≠ 0x5C
  control : ¬b < 0x20

theorem isPlain_ofNat {n : Nat} (hn : n < 0x100) (hc : 0x20 ≤ n) (hq : n ≠ 0x22) (hb : n ≠ 0x5C) :
    IsPlain (UInt8.ofNat n) := by
  have h : (UInt8.ofNat n).toNat = n := UInt8.toNat_ofNat_of_lt hn
  refine { quote := ?_, backslash := ?_, control := ?_ }
  · intro he
    rw [he] at h
    exact hq h.symm
  · intro he
    rw [he] at h
    exact hb h.symm
  · rw [UInt8.lt_iff_toNat_lt, h]
    exact Nat.not_lt.mpr hc

theorem isPlain_of_mem_encodeChar {c : Char} {b : UInt8} (hc : 0x20 ≤ c.toNat) (hq : c.toNat ≠ 0x22)
    (hb : c.toNat ≠ 0x5C) (h : b ∈ String.utf8EncodeChar c) : IsPlain b := by
  cases mem_encodeChar h
  case inl h =>
    rw [h.right]
    exact isPlain_ofNat (by omega) hc hq hb
  case inr h =>
    have ⟨n, hn, he⟩ := h
    rw [he]
    exact isPlain_ofNat (by omega) (by omega) (by omega) (by omega)

variable {acc rest : Bytes}

theorem readStringFrom_plain {bs : Bytes} (h : ∀ b ∈ bs, IsPlain b) :
    readStringFrom acc (bs ++ rest) = readStringFrom (bs.reverse ++ acc) rest := by
  induction bs generalizing acc
  case nil => rfl
  case cons b bs hi =>
    have hb := h b List.mem_cons_self
    rw [List.cons_append, readStringFrom.eq_def]
    simp only [if_neg hb.quote, if_neg hb.backslash, if_neg hb.control]
    rw [hi fun x hx => h x <| List.mem_cons_of_mem b hx, List.reverse_cons, List.append_assoc]
    rfl

theorem encode_hexDigit {k : Nat} (h : k < 16) :
    ∃ b, String.utf8EncodeChar (Text.hexDigit k) = [b] ∧ Text.hexByte? b = some k := by
  have all : ∀ k < 16, let b := UInt8.ofNat (Text.hexDigit k).toNat
      String.utf8EncodeChar (Text.hexDigit k) = [b] ∧ Text.hexByte? b = some k := by decide
  exact ⟨_, all k h⟩

theorem encode_hex4 {n : Nat} (h : n < 0x10000) :
    ∃ a b c d, encode (hex4 n) = [a, b, c, d] ∧ hex4? a b c d = some n := by
  have ⟨a, ha, ka⟩ := encode_hexDigit (k := n / 0x1000 % 0x10) (by omega)
  have ⟨b, hb, kb⟩ := encode_hexDigit (k := n / 0x100 % 0x10) (by omega)
  have ⟨c, hc, kc⟩ := encode_hexDigit (k := n / 0x10 % 0x10) (by omega)
  have ⟨d, hd, kd⟩ := encode_hexDigit (k := n % 0x10) (by omega)
  have hn : ((n / 0x1000 % 0x10 * 16 + n / 0x100 % 0x10) * 16 + n / 0x10 % 0x10) * 16 + n % 0x10 = n := by
    omega
  refine ⟨a, b, c, d, ?_, ?_⟩
  · simp only [hex4, List.map_cons, List.map_nil, encode_cons, ha, hb, hc, hd]
    rfl
  · simp [hex4?, ka, kb, kc, kd, hn]

-- A control character that has no short escape.
theorem readStringFrom_hexEscape {n : Nat} (h : n < 0x20) :
    readStringFrom acc (encode ('\\' :: 'u' :: hex4 n) ++ rest) =
      readStringFrom (pushCodePoint n acc) rest := by
  have ⟨a, b, c, d, he, hd⟩ := encode_hex4 (n := n) (by omega)
  have hl : isLowSurrogate n = false := by simp [isLowSurrogate]; omega
  have hh : isHighSurrogate n = false := by simp [isHighSurrogate]; omega
  have hw : encode ('\\' :: 'u' :: hex4 n) ++ rest = 0x5C :: 0x75 :: a :: b :: c :: d :: rest := by
    rw [encode_cons, encode_cons, he]
    rfl
  rw [hw, readStringFrom.eq_def]
  simp [hd, hl, hh]

theorem readStringFrom_shortEscape {e b : UInt8} (hu : e ≠ 0x75) (h : shortEscape? e = some b) :
    readStringFrom acc (0x5C :: e :: rest) = readStringFrom (b :: acc) rest := by
  rw [readStringFrom.eq_def]
  simp [hu, h]

-- The characters that have an escape of two letters.
def shortEscaped : List Char := ['"', '\\', '\x08', '\x0c', '\n', '\r', '\t']

theorem encode_escapeChar_short {c : Char} (h : c ∈ shortEscaped) :
    ∃ e b, encode (escapeChar c) = [0x5C, e] ∧ e ≠ 0x75 ∧ shortEscape? e = some b ∧
      String.utf8EncodeChar c = [b] := by
  have all : ∀ c ∈ shortEscaped, ∃ e b, encode (escapeChar c) = [0x5C, e] ∧ e ≠ 0x75 ∧
      shortEscape? e = some b ∧ String.utf8EncodeChar c = [b] := by
    simp only [shortEscaped, List.forall_mem_cons]
    exact ⟨⟨0x22, 0x22, by decide⟩, ⟨0x5C, 0x5C, by decide⟩, ⟨0x62, 0x08, by decide⟩,
      ⟨0x66, 0x0C, by decide⟩, ⟨0x6E, 0x0A, by decide⟩, ⟨0x72, 0x0D, by decide⟩,
      ⟨0x74, 0x09, by decide⟩, by simp⟩
  exact all c h

theorem escapeChar_control {c : Char} (h : c ∉ shortEscaped) (hc : c.toNat < 0x20) :
    escapeChar c = '\\' :: 'u' :: hex4 c.toNat := by
  simp only [shortEscaped, List.mem_cons, List.not_mem_nil, or_false, not_or] at h
  simp [escapeChar, h, hc]

theorem escapeChar_plain {c : Char} (h : c ∉ shortEscaped) (hc : ¬c.toNat < 0x20) :
    escapeChar c = [c] := by
  simp only [shortEscaped, List.mem_cons, List.not_mem_nil, or_false, not_or] at h
  simp [escapeChar, h, hc]

-- One character is read back as its bytes, however it was escaped.
theorem readStringFrom_escapeChar (c : Char) :
    readStringFrom acc (encode (escapeChar c) ++ rest) =
      readStringFrom ((String.utf8EncodeChar c).reverse ++ acc) rest := by
  by_cases h : c ∈ shortEscaped
  case pos =>
    have ⟨e, b, hw, hu, he, hc⟩ := encode_escapeChar_short h
    rw [hw, hc]
    exact readStringFrom_shortEscape hu he
  case neg =>
    by_cases hc : c.toNat < 0x20
    case pos =>
      rw [escapeChar_control h hc, readStringFrom_hexEscape hc, pushCodePoint, Char.ofNat_toNat]
    case neg =>
      have hq : c.toNat ≠ 0x22 := fun hn => h <| (Char.toNat_inj (c := c) (d := '"')).mp hn ▸ by decide
      have hb : c.toNat ≠ 0x5C := fun hn => h <| (Char.toNat_inj (c := c) (d := '\\')).mp hn ▸ by decide
      have hp : ∀ b ∈ String.utf8EncodeChar c, IsPlain b := fun b =>
        isPlain_of_mem_encodeChar (Nat.not_lt.mp hc) hq hb
      rw [escapeChar_plain h hc, encode_cons, encode_nil, List.append_nil, readStringFrom_plain hp]

theorem readStringFrom_escaped (cs : List Char) :
    readStringFrom acc (encode (cs.flatMap escapeChar) ++ 0x22 :: rest) =
      closeString ((encode cs).reverse ++ acc) rest := by
  induction cs generalizing acc
  case nil =>
    rw [List.flatMap_nil, encode_nil, List.nil_append, readStringFrom.eq_def]
    rfl
  case cons c cs hi =>
    rw [List.flatMap_cons, encode_append, List.append_assoc, readStringFrom_escapeChar, hi, encode_cons,
      List.reverse_append, List.append_assoc]

-- A string that was written, without its opening quote.
def afterQuote (s : String) : List Char :=
  s.toList.flatMap escapeChar ++ ['"']

theorem stringChars_eq (s : String) : stringChars s = '"' :: afterQuote s := rfl

theorem readString_written (s : String) :
    readString (encode (afterQuote s) ++ rest) = .ok (s, rest) := by
  have hd : decodeString? (encode s.toList) = some s := decodeString?_encodeString s
  have hw : encode (afterQuote s) ++ rest = encode (s.toList.flatMap escapeChar) ++ 0x22 :: rest := by
    rw [afterQuote, encode_append, List.append_assoc]
    rfl
  rw [readString, hw, readStringFrom_escaped, closeString, List.append_nil, List.reverse_reverse, hd]

theorem skipBlanks_cons {b : UInt8} {bs : Bytes} (h : isBlankByte b = false) :
    skipBlanks (b :: bs) = b :: bs := by
  simp [skipBlanks, h]

theorem skipBlanks_blank {g : Bytes} (hg : ∀ b ∈ g, isBlankByte b = true) (w : Bytes) :
    skipBlanks (g ++ w) = skipBlanks w :=
  List.dropWhile_append_of_pos hg

-- A number does not go on here.
structure EndsNumber (rest : Bytes) : Prop where
  digit : ∀ b bs, rest = b :: bs → isDigit b = false
  point : ∀ b bs, rest = b :: bs → b ≠ 0x2E
  mark : ∀ b bs, rest = b :: bs → isExponentMark b = false

theorem EndsNumber.nil : EndsNumber [] where
  digit := nofun
  point := nofun
  mark := nofun

theorem EndsNumber.cons {b : UInt8} {bs : Bytes} (hd : isDigit b = false) (hp : b ≠ 0x2E)
    (hm : isExponentMark b = false) : EndsNumber (b :: bs) where
  digit _ _ h := List.cons.inj h |>.left ▸ hd
  point _ _ h := List.cons.inj h |>.left ▸ hp
  mark _ _ h := List.cons.inj h |>.left ▸ hm

theorem ne_of_isDigit {b c : UInt8} (h : isDigit b = true) (hc : isDigit c = false) : b ≠ c := by
  intro hb
  rw [hb, hc] at h
  contradiction

theorem isBlankByte_of_isDigit {b : UInt8} (h : isDigit b = true) : isBlankByte b = false := by
  simp only [isBlankByte, Bool.or_eq_false_iff, beq_eq_false_iff_ne]
  exact ⟨⟨⟨ne_of_isDigit h rfl, ne_of_isDigit h rfl⟩, ne_of_isDigit h rfl⟩, ne_of_isDigit h rfl⟩

theorem readAfterInteger_ended (negative : Bool) (n : Nat) (h : EndsNumber rest) :
    readAfterInteger negative n rest = .ok (integerOf negative n, rest) := by
  cases rest
  case nil => rfl
  case cons b bs =>
    rw [readAfterInteger]
    simp [h.point b bs rfl, h.mark b bs rfl]

theorem encode_digit {c : Char} (h : c.isDigit = true) :
    ∃ b, String.utf8EncodeChar c = [b] ∧ isDigit b = true ∧ digitValue b = c.toNat - '0'.toNat ∧
      (c ≠ '0' → b ≠ 0x30) := by
  have all : ∀ n < 0x3A, 0x30 ≤ n → isDigit (UInt8.ofNat n) = true ∧
      digitValue (UInt8.ofNat n) = n - '0'.toNat ∧ (n ≠ 0x30 → UInt8.ofNat n ≠ 0x30) := by decide
  have ⟨hl, hh⟩ : 0x30 ≤ c.toNat ∧ c.toNat < 0x3A := by
    simp only [Char.isDigit, Bool.and_eq_true, decide_eq_true_eq, ge_iff_le, UInt32.le_iff_toNat_le] at h
    exact ⟨h.left, Nat.lt_succ_of_le h.right⟩
  have ⟨hd, hv, hz⟩ := all c.toNat hh hl
  exact ⟨_, encodeChar_ascii (by omega), hd, hv, fun hc => hz fun hn => hc <| Char.toNat_inj.mp hn⟩

theorem le_ofDigitChars (cs : List Char) (n : Nat) : n ≤ Nat.ofDigitChars 10 cs n := by
  have hp : 0 < 10 ^ cs.length := Nat.pow_pos (by decide)
  calc n ≤ 10 ^ cs.length * n := Nat.le_mul_of_pos_left n hp
    _ ≤ 10 ^ cs.length * n + Nat.ofDigitChars 10 cs 0 := Nat.le_add_right ..
    _ = Nat.ofDigitChars 10 cs n := Nat.ofDigitChars_eq_ofDigitChars_zero.symm

-- The digits after the first one, by induction on them: the number so far never exceeds the whole.
theorem readIntegerDigits_written (negative : Bool) {cs : List Char} {n : Nat}
    (hc : ∀ c ∈ cs, c.isDigit = true) (hn : Nat.ofDigitChars 10 cs n ≤ maxSignificand)
    (h : EndsNumber rest) :
    readIntegerDigits negative n (encode cs ++ rest) =
      .ok (integerOf negative (Nat.ofDigitChars 10 cs n), rest) := by
  induction cs generalizing n
  case nil =>
    rw [encode_nil, List.nil_append, Nat.ofDigitChars_nil]
    cases rest
    case nil => rfl
    case cons b bs =>
      rw [readIntegerDigits, if_neg (by simp [h.digit b bs rfl]), readAfterInteger_ended negative n h]
  case cons c cs hi =>
    have ⟨b, he, hd, hv, _⟩ := encode_digit <| hc c List.mem_cons_self
    have hs : Nat.ofDigitChars 10 (c :: cs) n = Nat.ofDigitChars 10 cs (n * 10 + digitValue b) := by
      rw [Nat.ofDigitChars_cons, hv, Nat.mul_comm]
    rw [hs] at hn ⊢
    have hm : n * 10 + digitValue b ≤ maxSignificand := Nat.le_trans (le_ofDigitChars ..) hn
    rw [encode_cons, he, List.append_assoc, List.singleton_append, readIntegerDigits, if_pos hd]
    simp only [if_pos hm]
    exact hi (fun x hx => hc x <| List.mem_cons_of_mem c hx) hn

-- Only zero begins with a zero.
theorem toDigits_eq_cons {n : Nat} (h : 0 < n) : ∃ c cs, Nat.toDigits 10 n = c :: cs ∧ c ≠ '0' := by
  induction n using Nat.strongRecOn
  case ind n hi =>
    by_cases hn : n < 10
    case pos =>
      have all : ∀ n < 10, 0 < n → n.digitChar ≠ '0' := by decide
      exact ⟨_, _, Nat.toDigits_of_lt_base hn, all n hn h⟩
    case neg =>
      have ⟨c, cs, he, hc⟩ := hi (n / 10) (by omega) (by omega)
      refine ⟨c, cs ++ [(n % 10).digitChar], ?_, hc⟩
      rw [Nat.toDigits_of_base_le (by decide) (Nat.not_lt.mp hn), he]
      rfl

theorem readNumber_written (negative : Bool) {n : Nat} (hn : n ≤ maxSignificand) (h : EndsNumber rest) :
    readNumber negative (encode (Nat.toDigits 10 n) ++ rest) = .ok (integerOf negative n, rest) := by
  cases n
  case zero =>
    have hz : encode (Nat.toDigits 10 0) ++ rest = 0x30 :: rest := rfl
    rw [hz, ← readAfterInteger_ended negative 0 h, readNumber.eq_def]
    cases rest
    case nil => rfl
    case cons b bs => simp [h.digit b bs rfl]
  case succ n =>
    have ⟨c, cs, he, hz⟩ := toDigits_eq_cons (Nat.succ_pos n)
    have hc : ∀ x ∈ c :: cs, x.isDigit = true := fun x hx =>
      Nat.isDigit_of_mem_toDigits (b := 10) (n := n + 1) (by decide) (by decide) (he ▸ hx)
    have ⟨b, hb, hd, hv, hf⟩ := encode_digit <| hc c List.mem_cons_self
    have hs : Nat.ofDigitChars 10 cs (digitValue b) = n + 1 := by
      have hw := Nat.ofDigitChars_ten_toDigits (n := n + 1)
      rw [he, Nat.ofDigitChars_cons, Nat.mul_zero, Nat.zero_add] at hw
      rw [hv, hw]
    have hr := readIntegerDigits_written negative (n := digitValue b)
      (fun x hx => hc x <| List.mem_cons_of_mem c hx) (hs ▸ hn) h
    rw [he, encode_cons, hb, List.append_assoc, List.singleton_append, readNumber.eq_def]
    simp only [if_neg (hf hz), if_pos hd, hr, hs]

end AccessControl.Json
