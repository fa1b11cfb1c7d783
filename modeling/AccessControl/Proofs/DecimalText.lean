import AccessControl.Text.Blank
import AccessControl.Text.Decimal
import Mathlib.Data.List.DropRight

namespace AccessControl.Text

variable {c : Char} {cs ds before after : List Char} {limit n m : Nat}

theorem digitValue?_eq (c : Char) : digitValue? c = if c.isDigit then some (c.toNat - 0x30) else none := by
  unfold digitValue?
  congr 1
  simp only [Char.isDigit, Bool.and_eq_true, decide_eq_true_eq]
  rfl

-- The digits of a number, after those that have been read.
theorem readDigitsFrom_eq_some_iff :
    readDigitsFrom n cs = some m ↔ (∀ c ∈ cs, c.isDigit = true) ∧ Nat.ofDigitChars 10 cs n = m := by
  induction cs generalizing n
  case nil => simp [readDigitsFrom]
  case cons c cs hi =>
    rw [readDigitsFrom, digitValue?_eq]
    cases hd : c.isDigit
    case false => simp [hd]
    case true =>
      have hs : Nat.ofDigitChars 10 (c :: cs) n = Nat.ofDigitChars 10 cs (n * 10 + (c.toNat - 0x30)) := by
        rw [Nat.ofDigitChars_cons, Nat.mul_comm]
        rfl
      simp [hi, hd, hs]

theorem readDigits?_eq_some_iff :
    readDigits? cs = some n ↔ cs ≠ [] ∧ (∀ c ∈ cs, c.isDigit = true) ∧ Nat.ofDigitChars 10 cs 0 = n := by
  cases cs
  case nil => simp [readDigits?]
  case cons c cs => simp [readDigits?, readDigitsFrom_eq_some_iff]

theorem isBlank_of_isDigit (h : c.isDigit = true) : isBlank c = false := by
  simp only [Char.isDigit, Bool.and_eq_true, decide_eq_true_eq, ge_iff_le, UInt32.le_iff_toNat_le] at h
  have hl : 48 ≤ c.toNat := h.left
  have hu : c.toNat ≤ 57 := h.right
  simp only [isBlank, Bool.or_eq_false_iff, Bool.and_eq_false_iff, decide_eq_false_iff_not, beq_eq_false_iff_ne]
  omega

theorem dropWhile_blanks (hb : ∀ c ∈ before, isBlank c = true) (hc : ∀ c ∈ cs.head?, isBlank c = false) :
    (before ++ cs).dropWhile isBlank = cs := by
  rw [List.dropWhile_append_of_pos hb]
  cases cs
  case nil => rfl
  case cons c cs => exact List.dropWhile_cons_of_neg (by simpa using hc)

-- What stands between the blanks at the ends of a text.
theorem trimChars_framed (hb : ∀ c ∈ before, isBlank c = true) (ha : ∀ c ∈ after, isBlank c = true) (hn : cs ≠ [])
    (hf : ∀ c ∈ cs.head?, isBlank c = false) (hl : ∀ c ∈ cs.getLast?, isBlank c = false) :
    trimChars (before ++ (cs ++ after)) = cs := by
  have hfront : (before ++ (cs ++ after)).dropWhile isBlank = cs ++ after :=
    dropWhile_blanks hb (by rwa [List.head?_append_of_ne_nil cs hn])
  have hback : (cs ++ after).reverse.dropWhile isBlank = cs.reverse := by
    rw [List.reverse_append]
    exact dropWhile_blanks (by simpa using ha) (by rwa [List.head?_reverse])
  rw [trimChars, hfront, hback, List.reverse_reverse]

theorem exists_trimChars (cs : List Char) :
    ∃ before after, cs = before ++ (trimChars cs ++ after) ∧ (∀ c ∈ before, isBlank c = true) ∧
      ∀ c ∈ after, isBlank c = true := by
  have blank (ds : List Char) : ∀ c ∈ ds.takeWhile isBlank, isBlank c = true := List.all_eq_true.mp List.all_takeWhile
  refine ⟨cs.takeWhile isBlank, (cs.dropWhile isBlank).rtakeWhile isBlank, ?_, blank cs, ?_⟩
  · rw [show trimChars cs = (cs.dropWhile isBlank).rdropWhile isBlank from rfl, List.rdropWhile_append_rtakeWhile,
      List.takeWhile_append_dropWhile]
  · intro c hc
    exact blank _ c (List.mem_reverse.mp hc)

structure Numeral where
  before : List Char
  plus : Bool
  digits : List Char
  after : List Char
  blankBefore : ∀ c ∈ before, isBlank c = true
  blankAfter : ∀ c ∈ after, isBlank c = true
  nonempty : digits ≠ []
  areDigits : ∀ c ∈ digits, c.isDigit = true

namespace Numeral

def signed (w : Numeral) : List Char :=
  if w.plus then '+' :: w.digits else w.digits

def text (w : Numeral) : String :=
  String.ofList (w.before ++ (w.signed ++ w.after))

-- The number that the digits write.
def value (w : Numeral) : Nat :=
  Nat.ofDigitChars 10 w.digits 0

theorem signed_ne_nil (w : Numeral) : w.signed ≠ [] := by
  unfold signed
  split
  case isTrue => exact List.cons_ne_nil _ _
  case isFalse => exact w.nonempty

theorem mem_signed (w : Numeral) (h : c ∈ w.signed) : c = '+' ∨ c.isDigit = true := by
  unfold signed at h
  split at h
  case isTrue =>
    rcases List.mem_cons.mp h with hc | hc
    · exact .inl hc
    · exact .inr (w.areDigits c hc)
  case isFalse => exact .inr (w.areDigits c h)

theorem isBlank_of_mem_signed (w : Numeral) (h : c ∈ w.signed) : isBlank c = false := by
  rcases w.mem_signed h with rfl | hd
  · decide
  · exact isBlank_of_isDigit hd

theorem trimChars_text (w : Numeral) : trimChars w.text.toList = w.signed := by
  rw [text, String.toList_ofList]
  exact trimChars_framed w.blankBefore w.blankAfter w.signed_ne_nil
    (fun c hc => w.isBlank_of_mem_signed (List.mem_of_mem_head? hc))
    (fun c hc => w.isBlank_of_mem_signed (List.mem_of_mem_getLast? hc))

theorem readNatural?_signed (w : Numeral) (limit : Nat) :
    readNatural? limit w.signed = (some w.value).filter (· < limit) := by
  have hd : readDigits? w.digits = some w.value := readDigits?_eq_some_iff.mpr ⟨w.nonempty, w.areDigits, rfl⟩
  unfold readNatural? signed
  cases w.plus
  case true => exact congrArg (Option.filter _) hd
  case false =>
    cases hw : w.digits
    case nil => exact absurd hw w.nonempty
    case cons c cs =>
      have hc : c.isDigit = true := w.areDigits c (hw ▸ List.mem_cons_self)
      have hp : c ≠ '+' := by
        rintro rfl
        contradiction
      simp only [Bool.false_eq_true, if_false]
      split
      case h_1 _ hq => exact absurd (List.cons.inj hq).left hp
      case h_2 => rw [← hw, hd]

theorem exists_of_readNatural? {text : String} (h : readNatural? limit (trimChars text.toList) = some n) :
    ∃ w : Numeral, w.text = text ∧ w.value = n := by
  obtain ⟨before, after, ht, hb, ha⟩ := exists_trimChars text.toList
  obtain ⟨hd, -⟩ := Option.filter_eq_some_iff.mp h
  obtain ⟨plus, ds, hs, hd⟩ : ∃ (plus : Bool) (ds : List Char),
      trimChars text.toList = (if plus then '+' :: ds else ds) ∧ readDigits? ds = some n := by
    split at hd
    case h_1 ds hs => exact ⟨true, ds, hs, hd⟩
    case h_2 => exact ⟨false, _, rfl, hd⟩
  obtain ⟨hn, hc, hv⟩ := readDigits?_eq_some_iff.mp hd
  let w : Numeral :=
    { before, plus, digits := ds, after, blankBefore := hb, blankAfter := ha, nonempty := hn, areDigits := hc }
  refine ⟨w, String.toList_inj.mp ?_, hv⟩
  rw [Numeral.text, String.toList_ofList, ht, hs]
  rfl

-- The reader accepts the numerals for numbers below the limit, and nothing else.
theorem readNatural?_trimChars_eq_some_iff {text : String} :
    readNatural? limit (trimChars text.toList) = some n ↔ n < limit ∧ ∃ w : Numeral, w.text = text ∧ w.value = n := by
  constructor
  case mp =>
    intro h
    exact ⟨by simpa using (Option.filter_eq_some_iff.mp h).right, exists_of_readNatural? h⟩
  case mpr =>
    rintro ⟨hl, w, rfl, rfl⟩
    rw [trimChars_text, readNatural?_signed, Option.filter_some_pos (by simpa using hl)]

theorem value_unique {w w' : Numeral} (h : w.text = w'.text) : w.value = w'.value := by
  have reads (v : Numeral) (hv : v.value < max w.value w'.value + 1) :=
    readNatural?_trimChars_eq_some_iff.mpr ⟨hv, v, rfl, rfl⟩
  have hw := reads w (Nat.lt_succ_of_le (Nat.le_max_left ..))
  have hw' := reads w' (Nat.lt_succ_of_le (Nat.le_max_right ..))
  rw [h, hw'] at hw
  exact (Option.some.inj hw).symm

theorem mem_text (w : Numeral) (h : c ∈ w.text.toList) : isBlank c = true ∨ c = '+' ∨ c.isDigit = true := by
  rw [text, String.toList_ofList, List.mem_append, List.mem_append] at h
  rcases h with h | h | h
  · exact .inl (w.blankBefore c h)
  · exact .inr (w.mem_signed h)
  · exact .inl (w.blankAfter c h)

theorem isBlankText_text (w : Numeral) : isBlankText w.text = false := by
  have ⟨c, hc⟩ := List.exists_mem_of_ne_nil _ w.signed_ne_nil
  have hm : c ∈ w.text.toList := by
    rw [text, String.toList_ofList]
    exact List.mem_append_right _ (List.mem_append_left _ hc)
  exact List.all_eq_false.mpr ⟨c, hm, by simp [w.isBlank_of_mem_signed hc]⟩

-- How a number is written: its digits, after as many zeros as one likes.
def written (n zeros : Nat) (hb : ∀ c ∈ before, isBlank c = true) (ha : ∀ c ∈ after, isBlank c = true) : Numeral where
  before := before
  plus := false
  digits := List.replicate zeros '0' ++ Nat.toDigits 10 n
  after := after
  blankBefore := hb
  blankAfter := ha
  nonempty := List.append_ne_nil_of_right_ne_nil _ Nat.toDigits_ne_nil
  areDigits := by
    refine List.forall_mem_append.mpr ⟨fun c hc => ?_, fun c hc => ?_⟩
    · rw [List.eq_of_mem_replicate hc]
      decide
    · exact Nat.isDigit_of_mem_toDigits (by decide) (by decide) hc

theorem ofDigitChars_zeros (zeros : Nat) (cs : List Char) :
    Nat.ofDigitChars 10 (List.replicate zeros '0' ++ cs) 0 = Nat.ofDigitChars 10 cs 0 := by
  induction zeros
  case zero => rfl
  case succ zeros hi =>
    rw [List.replicate_succ, List.cons_append, Nat.ofDigitChars_cons]
    exact hi

variable {hb : ∀ c ∈ before, isBlank c = true} {ha : ∀ c ∈ after, isBlank c = true}

theorem value_written (n zeros : Nat) : (written n zeros hb ha).value = n := by
  rw [value, written, ofDigitChars_zeros, Nat.ofDigitChars_ten_toDigits]

theorem text_written (n zeros : Nat) :
    (written n zeros hb ha).text =
      String.ofList (before ++ (List.replicate zeros '0' ++ (toString n).toList ++ after)) := by
  have hn : (toString n).toList = Nat.toDigits 10 n := String.toList_ofList
  rw [hn]
  rfl

end Numeral
end AccessControl.Text
