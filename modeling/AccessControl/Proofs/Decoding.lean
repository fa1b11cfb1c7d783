import AccessControl.Proofs.Utf8

namespace AccessControl.Utf8

theorem toNat_ofNat {n : Nat} (h : (n < 0xD800 ∨ 0xDFFF < n) ∧ n < 0x110000) : (Char.ofNat n).toNat = n := by
  have hv : n.isValidChar := by simp only [Nat.isValidChar]; omega
  rw [Char.ofNat, dif_pos hv]
  rfl

-- What a byte between characters begins, by how many bytes the character has.
theorem start_shape (b : UInt8) :
    start b = .illFormed ∨ (∃ n ≤ 0x7F, b = UInt8.ofNat n ∧ start b = .char (Char.ofNat n)) ∨
      (∃ k, 2 ≤ k ∧ k < 0x20 ∧ b = UInt8.ofNat (k + 0xC0) ∧ start b = .pending ⟨k, 0, 0x80, 0xBF⟩) ∨
      (∃ k < 0x10, b = UInt8.ofNat (k + 0xE0) ∧ start b = .pending ⟨k, 1, lowOfThree k, highOfThree k⟩) ∨
      ∃ k ≤ 4, b = UInt8.ofNat (k + 0xF0) ∧ start b = .pending ⟨k, 2, lowOfFour k, highOfFour k⟩ := by
  have hb : b = UInt8.ofNat b.toNat := UInt8.ofNat_toNat.symm
  have hn : b.toNat < 0x100 := b.toNat_lt
  rw [hb]
  generalize b.toNat = n at hn
  by_cases h₁ : n < 0x80
  case pos => exact .inr <| .inl ⟨n, by omega, rfl, start_one (by omega)⟩
  by_cases h₂ : n < 0xC2
  case pos =>
    have all : ∀ n < 0xC2, ¬n < 0x80 → start (UInt8.ofNat n) = .illFormed := by decide +kernel
    exact .inl (all n h₂ h₁)
  by_cases h₃ : n < 0xE0
  case pos =>
    refine .inr <| .inr <| .inl ⟨n - 0xC0, by omega, by omega, ?_⟩
    have hk := start_two (k := n - 0xC0) (by omega) (by omega)
    rw [show n - 0xC0 + 0xC0 = n by omega] at hk ⊢
    exact ⟨rfl, hk⟩
  by_cases h₄ : n < 0xF0
  case pos =>
    refine .inr <| .inr <| .inr <| .inl ⟨n - 0xE0, by omega, ?_⟩
    have hk := start_three (k := n - 0xE0) (by omega)
    rw [show n - 0xE0 + 0xE0 = n by omega] at hk ⊢
    exact ⟨rfl, hk⟩
  by_cases h₅ : n < 0xF5
  case pos =>
    refine .inr <| .inr <| .inr <| .inr ⟨n - 0xF0, by omega, ?_⟩
    have hk := start_four (k := n - 0xF0) (by omega)
    rw [show n - 0xF0 + 0xF0 = n by omega] at hk ⊢
    exact ⟨rfl, hk⟩
  have all : ∀ n < 0x100, ¬n < 0xF5 → start (UInt8.ofNat n) = .illFormed := by decide +kernel
  exact .inl (all n hn h₅)

-- Six bits of a character that has begun.
theorem next_shape {p : Pending} {b : UInt8} {s : Step} (hl : 0x80 ≤ p.low) (hh : p.high ≤ 0xBF)
    (h : p.next b = s) (hs : s ≠ .illFormed) :
    ∃ m < 0x40, b = UInt8.ofNat (m + 0x80) ∧ p.low.toNat ≤ m + 0x80 ∧ m + 0x80 ≤ p.high.toNat ∧
      s = match p.more with
        | 0 => .char (Char.ofNat (p.code * 0x40 + m))
        | more + 1 => .pending ⟨p.code * 0x40 + m, more, 0x80, 0xBF⟩ := by
  unfold Pending.next at h
  split at h
  case isFalse => exact absurd h.symm hs
  case isTrue hb =>
    simp only [Bool.and_eq_true, decide_eq_true_eq, UInt8.le_iff_toNat_le] at hb hl hh
    have hc : (0x80 : UInt8).toNat = 0x80 ∧ (0xBF : UInt8).toNat = 0xBF := ⟨rfl, rfl⟩
    have hm : b.toNat - 0x80 + 0x80 = b.toNat := by omega
    have hk : b.toNat % 0x40 = b.toNat - 0x80 := by omega
    rw [hk] at h
    exact ⟨b.toNat - 0x80, by omega, by rw [hm, UInt8.ofNat_toNat], by omega, by omega, h.symm⟩

-- The second byte of a character tells that its number calls for so many bytes.
theorem of_lowOfThree_le {k m : Nat} (h : (lowOfThree k).toNat ≤ m + 0x80) : 0x20 ≤ k * 0x40 + m := by
  have hl : (0xA0 : UInt8).toNat = 0xA0 := rfl
  unfold lowOfThree at h
  split at h <;> omega

theorem of_le_highOfThree {k m : Nat} (hm : m < 0x40) (h : m + 0x80 ≤ (highOfThree k).toNat) :
    k * 0x40 + m < 0x360 ∨ 0x37F < k * 0x40 + m := by
  have hh : (0x9F : UInt8).toNat = 0x9F := rfl
  unfold highOfThree at h
  split at h <;> omega

theorem of_lowOfFour_le {k m : Nat} (h : (lowOfFour k).toNat ≤ m + 0x80) : 0x10 ≤ k * 0x40 + m := by
  have hl : (0x90 : UInt8).toNat = 0x90 := rfl
  unfold lowOfFour at h
  split at h <;> omega

theorem of_le_highOfFour {k m : Nat} (hk : k ≤ 4) (hm : m < 0x40) (h : m + 0x80 ≤ (highOfFour k).toNat) :
    k * 0x40 + m < 0x110 := by
  have hh : (0x8F : UInt8).toNat = 0x8F := rfl
  unfold highOfFour at h
  split at h <;> omega

theorem bounds_ofThree (k : Nat) : 0x80 ≤ lowOfThree k ∧ highOfThree k ≤ 0xBF := by
  unfold lowOfThree highOfThree
  split_ifs <;> decide

theorem bounds_ofFour (k : Nat) : 0x80 ≤ lowOfFour k ∧ highOfFour k ≤ 0xBF := by
  unfold lowOfFour highOfFour
  split_ifs <;> decide

section Whole

variable {acc cs : List Char} {w : Bytes} {low high : UInt8} {code more n k : Nat}

-- How a reader goes on once six more bits are known.
def decodeOn (code more : Nat) (acc : List Char) (rest : Bytes) : Option (List Char) :=
  match more with
  | 0 => decodeFrom none (Char.ofNat code :: acc) rest
  | more + 1 => decodeFrom (some ⟨code, more, 0x80, 0xBF⟩) acc rest

theorem exists_next (hl : 0x80 ≤ low) (hh : high ≤ 0xBF)
    (h : decodeFrom (some ⟨code, more, low, high⟩) acc w = some cs) :
    ∃ m rest, m < 0x40 ∧ low.toNat ≤ m + 0x80 ∧ m + 0x80 ≤ high.toNat ∧ w = UInt8.ofNat (m + 0x80) :: rest ∧
      decodeOn (code * 0x40 + m) more acc rest = some cs := by
  cases w
  case nil => contradiction
  case cons b rest =>
    rw [decodeFrom, step] at h
    cases hn : Pending.next ⟨code, more, low, high⟩ b <;> rw [hn] at h
    case illFormed => contradiction
    all_goals
      obtain ⟨m, hm, hb, hlm, hmh, hs⟩ := next_shape hl hh hn (by simp)
      refine ⟨m, rest, hm, hlm, hmh, by rw [hb], ?_⟩
      split at hs <;> simp_all [decodeOn]

-- The bytes go on with those of one character.
def Continues (b : UInt8) (acc : List Char) (w : Bytes) (cs : List Char) : Prop :=
  ∃ c rest, b :: w = String.utf8EncodeChar c ++ rest ∧ decodeFrom none (c :: acc) rest = some cs

theorem encodeChar_ofNat (h : (n < 0xD800 ∨ 0xDFFF < n) ∧ n < 0x110000) :
    String.utf8EncodeChar (Char.ofNat n) =
      if n ≤ 0x7F then [UInt8.ofNat n]
      else if n ≤ 0x7FF then [UInt8.ofNat (n / 64 % 32 + 0xC0), UInt8.ofNat (n % 64 + 0x80)]
      else if n ≤ 0xFFFF then
        [UInt8.ofNat (n / 4096 % 16 + 0xE0), UInt8.ofNat (n / 64 % 64 + 0x80), UInt8.ofNat (n % 64 + 0x80)]
      else
        [UInt8.ofNat (n / 262144 % 8 + 0xF0), UInt8.ofNat (n / 4096 % 64 + 0x80), UInt8.ofNat (n / 64 % 64 + 0x80),
          UInt8.ofNat (n % 64 + 0x80)] := by
  have hv : (Char.ofNat n).val.toNat = n := toNat_ofNat h
  simp only [String.utf8EncodeChar, hv]

theorem continues_two (hl : 2 ≤ k) (hh : k < 0x20) (h : decodeFrom (some ⟨k, 0, 0x80, 0xBF⟩) acc w = some cs) :
    Continues (UInt8.ofNat (k + 0xC0)) acc w cs := by
  have ⟨m, rest, hm, _, _, hw, hr⟩ := exists_next (by simp) (by simp) h
  refine ⟨Char.ofNat (k * 0x40 + m), rest, ?_, hr⟩
  rw [hw, encodeChar_ofNat (by omega), if_neg (by omega), if_pos (by omega)]
  have hk : (k * 0x40 + m) / 64 % 32 = k := by omega
  have hn : (k * 0x40 + m) % 64 = m := by omega
  rw [hk, hn]
  rfl

theorem continues_three (hk : k < 0x10)
    (h : decodeFrom (some ⟨k, 1, lowOfThree k, highOfThree k⟩) acc w = some cs) :
    Continues (UInt8.ofNat (k + 0xE0)) acc w cs := by
  have ⟨hb, ht⟩ := bounds_ofThree k
  have ⟨m, v, hm, hl, hh, hw, hr⟩ := exists_next hb ht h
  have ⟨l, rest, hn, _, _, hv, hr⟩ := exists_next (by simp) (by simp) hr
  have hl := of_lowOfThree_le hl
  have hh := of_le_highOfThree hm hh
  refine ⟨Char.ofNat ((k * 0x40 + m) * 0x40 + l), rest, ?_, hr⟩
  generalize he : (k * 0x40 + m) * 0x40 + l = n
  rw [hw, hv, encodeChar_ofNat (by omega), if_neg (by omega), if_neg (by omega), if_pos (by omega)]
  have hx : n / 4096 % 16 = k := by omega
  have hy : n / 64 % 64 = m := by omega
  have hz : n % 64 = l := by omega
  rw [hx, hy, hz]
  rfl

theorem continues_four (hk : k ≤ 4)
    (h : decodeFrom (some ⟨k, 2, lowOfFour k, highOfFour k⟩) acc w = some cs) :
    Continues (UInt8.ofNat (k + 0xF0)) acc w cs := by
  have ⟨hb, ht⟩ := bounds_ofFour k
  have ⟨m, v, hm, hl, hh, hw, hr⟩ := exists_next hb ht h
  have ⟨l, u, hn, _, _, hv, hr⟩ := exists_next (by simp) (by simp) hr
  have ⟨j, rest, hj, _, _, hu, hr⟩ := exists_next (by simp) (by simp) hr
  have hl := of_lowOfFour_le hl
  have hh := of_le_highOfFour hk hm hh
  refine ⟨Char.ofNat (((k * 0x40 + m) * 0x40 + l) * 0x40 + j), rest, ?_, hr⟩
  generalize he : ((k * 0x40 + m) * 0x40 + l) * 0x40 + j = n
  rw [hw, hv, hu, encodeChar_ofNat (by omega), if_neg (by omega), if_neg (by omega), if_neg (by omega)]
  have ha : n / 262144 % 8 = k := by omega
  have hx : n / 4096 % 64 = m := by omega
  have hy : n / 64 % 64 = l := by omega
  have hz : n % 64 = j := by omega
  rw [ha, hx, hy, hz]
  rfl

theorem continues_of_decodeFrom {b : UInt8} (h : decodeFrom none acc (b :: w) = some cs) :
    Continues b acc w cs := by
  rw [decodeFrom, step] at h
  rcases start_shape b with hs | ⟨n, hn, hb, hs⟩ | ⟨k, hl, hh, hb, hs⟩ | ⟨k, hk, hb, hs⟩ | ⟨k, hk, hb, hs⟩ <;>
    rw [hs] at h
  · contradiction
  · refine ⟨Char.ofNat n, w, ?_, h⟩
    rw [hb, encodeChar_ofNat (by omega), if_pos hn]
    rfl
  · exact hb ▸ continues_two hl hh h
  · exact hb ▸ continues_three hk h
  · exact hb ▸ continues_four hk h

-- By induction on the bytes that are left, a character at a time.
theorem eq_encode_of_decodeFrom (h : decodeFrom none acc w = some cs) :
    ∃ ds, cs = acc.reverse ++ ds ∧ w = encode ds := by
  induction hl : w.length using Nat.strongRecOn generalizing w acc
  case ind n hi =>
    cases w
    case nil =>
      cases h
      exact ⟨[], by simp, rfl⟩
    case cons b w =>
      have ⟨c, rest, hw, hr⟩ := continues_of_decodeFrom h
      have hc := String.length_utf8EncodeChar c
      have hp := Char.utf8Size_pos c
      have hs : rest.length < n := by
        rw [← hl, hw, List.length_append]
        omega
      have ⟨ds, hd, he⟩ := hi _ hs hr rfl
      exact ⟨c :: ds, by simp [hd], by rw [hw, he, encode_cons]⟩

theorem decode?_eq_some_iff : decode? w = some cs ↔ w = encode cs := by
  constructor
  case mp =>
    intro h
    have ⟨ds, hd, hw⟩ := eq_encode_of_decodeFrom h
    rwa [hd]
  case mpr =>
    intro h
    rw [h, decode?_encode]

theorem decodeString?_eq_some_iff {s : String} : decodeString? w = some s ↔ w = encodeString s := by
  rw [decodeString?, Option.map_eq_some_iff]
  constructor
  case mp =>
    rintro ⟨cs, hc, rfl⟩
    rw [encodeString, String.toList_ofList, decode?_eq_some_iff.mp hc]
  case mpr =>
    intro h
    exact ⟨s.toList, decode?_eq_some_iff.mpr h, String.ofList_toList⟩

end Whole

end AccessControl.Utf8
