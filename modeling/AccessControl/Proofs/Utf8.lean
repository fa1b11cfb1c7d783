import AccessControl.Text.Utf8
import Mathlib.Tactic.SplitIfs

namespace AccessControl.Utf8

-- The bytes that may follow a first byte of three, and of four, as far as its last bits tell.
def lowOfThree (k : Nat) : UInt8 := if k = 0 then 0xA0 else 0x80

def highOfThree (k : Nat) : UInt8 := if k = 0xD then 0x9F else 0xBF

def lowOfFour (k : Nat) : UInt8 := if k = 0 then 0x90 else 0x80

def highOfFour (k : Nat) : UInt8 := if k = 4 then 0x8F else 0xBF

theorem start_one {n : Nat} (h : n ≤ 0x7F) : start (UInt8.ofNat n) = .char (Char.ofNat n) := by
  have all : ∀ n < 0x80, start (UInt8.ofNat n) = .char (Char.ofNat n) := by decide
  exact all n <| Nat.lt_succ_of_le h

theorem start_two {k : Nat} (hl : 2 ≤ k) (hh : k < 0x20) :
    start (UInt8.ofNat (k + 0xC0)) = .pending ⟨k, 0, 0x80, 0xBF⟩ := by
  have all : ∀ k < 0x20, 2 ≤ k → start (UInt8.ofNat (k + 0xC0)) = .pending ⟨k, 0, 0x80, 0xBF⟩ := by
    decide
  exact all k hh hl

theorem start_three {k : Nat} (h : k < 0x10) :
    start (UInt8.ofNat (k + 0xE0)) = .pending ⟨k, 1, lowOfThree k, highOfThree k⟩ := by
  have all : ∀ k < 0x10,
      start (UInt8.ofNat (k + 0xE0)) = .pending ⟨k, 1, lowOfThree k, highOfThree k⟩ := by decide
  exact all k h

theorem start_four {k : Nat} (h : k ≤ 4) :
    start (UInt8.ofNat (k + 0xF0)) = .pending ⟨k, 2, lowOfFour k, highOfFour k⟩ := by
  have all : ∀ k < 5,
      start (UInt8.ofNat (k + 0xF0)) = .pending ⟨k, 2, lowOfFour k, highOfFour k⟩ := by decide
  exact all k <| Nat.lt_succ_of_le h

-- A byte in the range that is called for brings its six bits.
theorem next_within (code more : Nat) {m : Nat} {low high : UInt8} (hm : m < 0x40)
    (hl : low.toNat ≤ m + 0x80) (hh : m + 0x80 ≤ high.toNat) :
    Pending.next ⟨code, more, low, high⟩ (UInt8.ofNat (m + 0x80)) =
      match more with
      | 0 => .char (Char.ofNat (code * 0x40 + m))
      | more + 1 => .pending ⟨code * 0x40 + m, more, 0x80, 0xBF⟩ := by
  have hn : (UInt8.ofNat (m + 0x80)).toNat = m + 0x80 :=
    UInt8.toNat_ofNat_of_lt <| show m + 0x80 < 0x100 by omega
  have hr : (low ≤ UInt8.ofNat (m + 0x80) && UInt8.ofNat (m + 0x80) ≤ high) = true := by
    simp only [UInt8.le_iff_toNat_le, hn, hl, hh, decide_true, Bool.and_self]
  have hb : (m + 0x80) % 0x40 = m := by omega
  cases more <;> simp only [Pending.next, hr, hn, hb, if_true]

theorem next_free (code more : Nat) {m : Nat} (hm : m < 0x40) :
    Pending.next ⟨code, more, 0x80, 0xBF⟩ (UInt8.ofNat (m + 0x80)) =
      match more with
      | 0 => .char (Char.ofNat (code * 0x40 + m))
      | more + 1 => .pending ⟨code * 0x40 + m, more, 0x80, 0xBF⟩ := by
  have hh : (0xBF : UInt8).toNat = 0xBF := rfl
  exact next_within code more hm (Nat.le_add_left ..) (by omega)

section Decoding

variable {p p' : Pending} {acc : List Char} {b : UInt8} {rest : Bytes} {c : Char}

theorem decodeFrom_whole (h : start b = .char c) :
    decodeFrom none acc (b :: rest) = decodeFrom none (c :: acc) rest := by
  rw [decodeFrom, step, h]

theorem decodeFrom_begin (h : start b = .pending p) :
    decodeFrom none acc (b :: rest) = decodeFrom (some p) acc rest := by
  rw [decodeFrom, step, h]

theorem decodeFrom_finish (h : p.next b = .char c) :
    decodeFrom (some p) acc (b :: rest) = decodeFrom none (c :: acc) rest := by
  rw [decodeFrom, step, h]

theorem decodeFrom_continue (h : p.next b = .pending p') :
    decodeFrom (some p) acc (b :: rest) = decodeFrom (some p') acc rest := by
  rw [decodeFrom, step, h]

end Decoding

-- The second byte of three is what keeps out overlong forms and surrogates, the second of four what keeps
-- out overlong forms and numbers past the last code point.
theorem lowOfThree_le {k m : Nat} (h : 0x20 ≤ k * 0x40 + m) : (lowOfThree k).toNat ≤ m + 0x80 := by
  unfold lowOfThree
  split
  case isTrue hk =>
    have hl : (0xA0 : UInt8).toNat = 0xA0 := rfl
    omega
  case isFalse => exact Nat.le_add_left ..

theorem le_highOfThree {k m : Nat} (hm : m < 0x40) (h : k * 0x40 + m < 0x360 ∨ 0x37F < k * 0x40 + m) :
    m + 0x80 ≤ (highOfThree k).toNat := by
  have hh : (0x9F : UInt8).toNat = 0x9F ∧ (0xBF : UInt8).toNat = 0xBF := ⟨rfl, rfl⟩
  unfold highOfThree
  split <;> omega

theorem lowOfFour_le {k m : Nat} (h : 0x10 ≤ k * 0x40 + m) : (lowOfFour k).toNat ≤ m + 0x80 := by
  unfold lowOfFour
  split
  case isTrue hk =>
    have hl : (0x90 : UInt8).toNat = 0x90 := rfl
    omega
  case isFalse => exact Nat.le_add_left ..

theorem le_highOfFour {k m : Nat} (hm : m < 0x40) (h : k * 0x40 + m < 0x110) :
    m + 0x80 ≤ (highOfFour k).toNat := by
  have hh : (0x8F : UInt8).toNat = 0x8F ∧ (0xBF : UInt8).toNat = 0xBF := ⟨rfl, rfl⟩
  unfold highOfFour
  split <;> omega

@[simp]
theorem encode_nil : encode [] = [] := rfl

theorem encode_cons (c : Char) (cs : List Char) :
    encode (c :: cs) = String.utf8EncodeChar c ++ encode cs :=
  List.flatMap_cons ..

@[simp]
theorem encode_append (cs ds : List Char) : encode (cs ++ ds) = encode cs ++ encode ds :=
  List.flatMap_append ..

theorem encodeChar_ascii {c : Char} (h : c.toNat ≤ 0x7F) :
    String.utf8EncodeChar c = [UInt8.ofNat c.toNat] := by
  have hv : c.val.toNat ≤ 0x7F := h
  simp only [String.utf8EncodeChar, if_pos hv]
  rfl

-- Only a character of ASCII has a byte of ASCII, and that is all it has.
theorem mem_encodeChar {c : Char} {b : UInt8} (h : b ∈ String.utf8EncodeChar c) :
    c.toNat ≤ 0x7F ∧ b = UInt8.ofNat c.toNat ∨ ∃ n < 0x80, b = UInt8.ofNat (n + 0x80) := by
  have hv : c.val.toNat = c.toNat := rfl
  simp only [String.utf8EncodeChar, hv] at h
  split at h
  case isTrue hn => exact .inl ⟨hn, List.mem_singleton.mp h⟩
  case isFalse =>
    refine .inr ?_
    split at h
    case isTrue =>
      simp only [List.mem_cons, List.not_mem_nil, or_false] at h
      rcases h with h | h
      · exact ⟨c.toNat / 64 % 0x20 + 0x40, by omega, h⟩
      · exact ⟨c.toNat % 0x40, by omega, h⟩
    case isFalse =>
      split at h
      case isTrue =>
        simp only [List.mem_cons, List.not_mem_nil, or_false] at h
        rcases h with h | h | h
        · exact ⟨c.toNat / 4096 % 0x10 + 0x60, by omega, h⟩
        · exact ⟨c.toNat / 64 % 0x40, by omega, h⟩
        · exact ⟨c.toNat % 0x40, by omega, h⟩
      case isFalse =>
        simp only [List.mem_cons, List.not_mem_nil, or_false] at h
        rcases h with h | h | h | h
        · exact ⟨c.toNat / 262144 % 0x08 + 0x70, by omega, h⟩
        · exact ⟨c.toNat / 4096 % 0x40, by omega, h⟩
        · exact ⟨c.toNat / 64 % 0x40, by omega, h⟩
        · exact ⟨c.toNat % 0x40, by omega, h⟩

-- No number of a character is one of a surrogate, or past the last code point.
theorem toNat_bounds (c : Char) : (c.toNat < 0xD800 ∨ 0xDFFF < c.toNat) ∧ c.toNat < 0x110000 := by
  have h := c.valid
  simp only [UInt32.isValidChar, Nat.isValidChar] at h
  have hn : c.val.toNat = c.toNat := rfl
  omega

theorem decodeFrom_encodeChar (c : Char) (acc : List Char) (rest : Bytes) :
    decodeFrom none acc (String.utf8EncodeChar c ++ rest) = decodeFrom none (c :: acc) rest := by
  have ⟨hs, hb⟩ := toNat_bounds c
  have hc : Char.ofNat c.toNat = c := Char.ofNat_toNat c
  have hv : c.val.toNat = c.toNat := rfl
  unfold String.utf8EncodeChar
  simp only [hv]
  generalize c.toNat = n at hs hb hc
  split
  case isTrue h =>
    refine decodeFrom_whole ?_
    rw [start_one h, hc]
  case isFalse h₁ =>
    split
    case isTrue h₂ =>
      have hk : n / 64 % 0x20 = n / 64 := by omega
      have hj : n / 64 * 0x40 + n % 0x40 = n := by omega
      have hz := next_free (n / 64) 0 (m := n % 0x40) (by omega)
      rw [hj, hc] at hz
      rw [hk, List.cons_append, decodeFrom_begin (start_two (by omega) (by omega)), List.cons_append,
        decodeFrom_finish hz, List.nil_append]
    case isFalse h₂ =>
      split
      case isTrue h₃ =>
        have hk : n / 4096 % 0x10 = n / 4096 := by omega
        have hi : n / 4096 * 0x40 + n / 64 % 0x40 = n / 64 := by omega
        have hj : n / 64 * 0x40 + n % 0x40 = n := by omega
        have hy := next_within (n / 4096) 1 (m := n / 64 % 0x40) (by omega)
          (lowOfThree_le (k := n / 4096) (by omega)) (le_highOfThree (k := n / 4096) (by omega) (by omega))
        have hz := next_free (n / 64) 0 (m := n % 0x40) (by omega)
        rw [hi] at hy
        rw [hj, hc] at hz
        rw [hk, List.cons_append, decodeFrom_begin (start_three (by omega)), List.cons_append,
          decodeFrom_continue hy, List.cons_append, decodeFrom_finish hz, List.nil_append]
      case isFalse h₃ =>
        have hk : n / 262144 % 0x08 = n / 262144 := by omega
        have hh : n / 262144 * 0x40 + n / 4096 % 0x40 = n / 4096 := by omega
        have hi : n / 4096 * 0x40 + n / 64 % 0x40 = n / 64 := by omega
        have hj : n / 64 * 0x40 + n % 0x40 = n := by omega
        have hx := next_within (n / 262144) 2 (m := n / 4096 % 0x40) (by omega)
          (lowOfFour_le (k := n / 262144) (by omega)) (le_highOfFour (k := n / 262144) (by omega) (by omega))
        have hy := next_free (n / 4096) 1 (m := n / 64 % 0x40) (by omega)
        have hz := next_free (n / 64) 0 (m := n % 0x40) (by omega)
        rw [hh] at hx
        rw [hi] at hy
        rw [hj, hc] at hz
        rw [hk, List.cons_append, decodeFrom_begin (start_four (by omega)), List.cons_append,
          decodeFrom_continue hx, List.cons_append, decodeFrom_continue hy, List.cons_append,
          decodeFrom_finish hz, List.nil_append]

-- A reader that stands between characters takes over what was written, whatever comes after it.
theorem decodeFrom_encode (cs acc : List Char) (rest : Bytes) :
    decodeFrom none acc (encode cs ++ rest) = decodeFrom none (cs.reverse ++ acc) rest := by
  induction cs generalizing acc
  case nil => rfl
  case cons c cs hi =>
    rw [encode_cons, List.append_assoc, decodeFrom_encodeChar, hi, List.reverse_cons, List.append_assoc]
    rfl

theorem decode?_encode (cs : List Char) : decode? (encode cs) = some cs := by
  have h := decodeFrom_encode cs [] []
  simpa [decode?, decodeFrom] using h

theorem decodeString?_encodeString (s : String) : decodeString? (encodeString s) = some s := by
  simp [decodeString?, encodeString, decode?_encode]

section Pieces

variable {state : Option Pending} {acc cs : List Char} {b : UInt8} {u v v₁ v₂ : Bytes}

theorem decodeFrom_append (h : decodeFrom state acc u = some cs) :
    decodeFrom state acc (u ++ v) = decodeFrom none cs.reverse v := by
  induction u generalizing state acc
  case nil =>
    cases state
    case none =>
      cases h
      rw [List.reverse_reverse, List.nil_append]
    case some => contradiction
  case cons b u hi =>
    rw [decodeFrom] at h
    rw [List.cons_append, decodeFrom]
    split at h <;> simp_all

-- Whether bytes are well formed does not depend on the characters before them.
theorem isSome_decodeFrom (state : Option Pending) (acc acc' : List Char) (v : Bytes) :
    (decodeFrom state acc v).isSome = (decodeFrom state acc' v).isSome := by
  induction v generalizing state acc acc'
  case nil => cases state <;> rfl
  case cons b v hi =>
    rw [decodeFrom, decodeFrom]
    split
    case h_1 => exact hi ..
    case h_2 => exact hi ..
    case h_3 => rfl

theorem start_ascii (h : b ≤ 0x7F) : start b = .char (Char.ofNat b.toNat) :=
  if_pos h

theorem isSome_decode?_ascii (h : ∀ b ∈ v, b ≤ 0x7F) : (decode? v).isSome = true := by
  rw [decode?]
  generalize [] = acc
  induction v generalizing acc
  case nil => rfl
  case cons b v hi =>
    have ⟨hb, hv⟩ := List.forall_mem_cons.mp h
    rw [decodeFrom_whole (start_ascii hb)]
    exact hi hv _

theorem isSome_decode?_append (h : (decode? u).isSome = true) :
    (decode? (u ++ v)).isSome = (decode? v).isSome := by
  have ⟨cs, hc⟩ := Option.isSome_iff_exists.mp h
  rw [decode?, decodeFrom_append hc]
  exact isSome_decodeFrom none _ _ v

theorem low_of_step {p : Pending} (h : step state b = .pending p) : 0x80 ≤ p.low := by
  cases state
  case none =>
    rw [step, start] at h
    split_ifs at h <;> cases h <;> dsimp only <;> decide
  case some =>
    rw [step, Pending.next] at h
    split at h
    case isTrue =>
      split at h <;> cases h
      dsimp only
      decide
    case isFalse => contradiction

theorem next_ascii {p : Pending} (hp : 0x80 ≤ p.low) (hb : b ≤ 0x7F) : p.next b = .illFormed := by
  refine if_neg fun h => ?_
  have hl := UInt8.le_iff_toNat_le.mp <| of_decide_eq_true (Bool.and_eq_true_iff.mp h).1
  have hp := UInt8.le_iff_toNat_le.mp hp
  have hb := UInt8.le_iff_toNat_le.mp hb
  have h80 : (0x80 : UInt8).toNat = 0x80 := rfl
  have h7F : (0x7F : UInt8).toNat = 0x7F := rfl
  omega

-- What starts with an ASCII byte is well formed, or not, whatever is before it.
theorem isSome_decode?_after {b₁ b₂ : UInt8} (h₁ : b₁ ≤ 0x7F) (h₂ : b₂ ≤ 0x7F)
    (h : (decode? (b₁ :: v₁)).isSome = (decode? (b₂ :: v₂)).isSome) (u : Bytes) :
    (decode? (u ++ b₁ :: v₁)).isSome = (decode? (u ++ b₂ :: v₂)).isSome := by
  have hs : ∀ p ∈ (none : Option Pending), 0x80 ≤ p.low := nofun
  rw [decode?, decode?]
  generalize none = state, [] = acc at hs ⊢
  induction u generalizing state acc
  case nil =>
    cases state
    case none =>
      rw [List.nil_append, List.nil_append, isSome_decodeFrom none acc [], isSome_decodeFrom none acc []]
      exact h
    case some p =>
      have hp := hs p rfl
      simp only [List.nil_append, decodeFrom, step, next_ascii hp h₁, next_ascii hp h₂]
  case cons b u hi =>
    rw [List.cons_append, List.cons_append, decodeFrom, decodeFrom]
    split
    case h_1 => exact hi _ _ nofun
    case h_2 p hp => exact hi _ _ fun _ h => Option.some.inj h ▸ low_of_step hp
    case h_3 => rfl

end Pieces

end AccessControl.Utf8
