import AccessControl.Call
import Mathlib.Data.List.Forall2

namespace AccessControl.RequestId

def hex : List Char :=
  "0123456789abcdef".toList

-- What may stand at each place of a UUID that was made at random: its version is four, and its variant
-- shows in the first digit of the fourth group.
def pattern : List (List Char) :=
  [['-']].intercalate
    [List.replicate 8 hex, List.replicate 4 hex, ['4'] :: List.replicate 3 hex,
      "89ab".toList :: List.replicate 3 hex, List.replicate 12 hex]

def IsUuid (id : RequestId) : Prop :=
  List.Forall₂ (· ∈ ·) id.text.toList pattern

theorem hexDigits_succ (d n : Nat) :
    hexDigits (d + 1) n = Nat.digitChar (n / Nat.pow 16 d % 16) :: hexDigits d n := by
  simp [hexDigits, List.range_succ]

theorem hexDigits_length (d n : Nat) : (hexDigits d n).length = d := by
  simp [hexDigits]

theorem digitChar_mem_hex (n : Nat) : Nat.digitChar (n % 16) ∈ hex := by
  have h : ∀ i : Fin 16, Nat.digitChar i ∈ hex := by decide +kernel
  exact h ⟨n % 16, Nat.mod_lt _ (by decide)⟩

theorem digitChar_injective {m n : Nat} (h : Nat.digitChar (m % 16) = Nat.digitChar (n % 16)) :
    m % 16 = n % 16 := by
  have hi : ∀ i j : Fin 16, Nat.digitChar i = Nat.digitChar j → i = j := by decide +kernel
  exact congrArg Fin.val (hi ⟨m % 16, Nat.mod_lt _ (by decide)⟩ ⟨n % 16, Nat.mod_lt _ (by decide)⟩ h)

theorem hexDigits_mem_hex (d n : Nat) : List.Forall₂ (· ∈ ·) (hexDigits d n) (List.replicate d hex) := by
  induction d
  case zero => exact .nil
  case succ d hi =>
    rw [hexDigits_succ, List.replicate_succ]
    exact .cons (digitChar_mem_hex _) hi

-- The digits tell the number, as far as they go.
theorem hexDigits_injective {d m n : Nat} (h : hexDigits d m = hexDigits d n) :
    m % Nat.pow 16 d = n % Nat.pow 16 d := by
  induction d
  case zero => rw [Nat.pow_eq, Nat.pow_zero, Nat.mod_one, Nat.mod_one]
  case succ d hi =>
    rw [hexDigits_succ, hexDigits_succ, List.cons.injEq] at h
    have hd := digitChar_injective h.left
    have hr := hi h.right
    simp only [Nat.pow_eq] at hd hr ⊢
    rw [Nat.mod_pow_succ, Nat.mod_pow_succ, hd, hr]

theorem text_ofRandom (bits : BitVec 122) :
    (ofRandom bits).text.toList = ['-'].intercalate (groups bits.toNat) :=
  String.toList_ofList

theorem eq_of_intercalate_eq {sep : List α} {xs ys : List (List α)}
    (hl : xs.map List.length = ys.map List.length) (h : sep.intercalate xs = sep.intercalate ys) : xs = ys := by
  induction xs generalizing ys
  case nil => exact (List.map_eq_nil_iff.mp hl.symm).symm
  case cons x xs hi =>
    obtain _ | ⟨y, ys⟩ := ys
    · contradiction
    rw [List.map_cons, List.map_cons, List.cons.injEq] at hl
    have ⟨hx, hs⟩ := hl
    obtain _ | ⟨x', xs⟩ := xs <;> obtain _ | ⟨y', ys⟩ := ys
    · simpa [List.intercalate] using h
    · contradiction
    · contradiction
    · rw [List.intercalate_cons_cons, List.intercalate_cons_cons, List.append_assoc, List.append_assoc] at h
      have ⟨he, ht⟩ := List.append_inj h hx
      rw [he, hi hs (List.append_cancel_left ht)]

-- No two numbers make the same identifier.
theorem ofRandom_injective : Function.Injective ofRandom := by
  intro a b h
  have ht : ['-'].intercalate (groups a.toNat) = ['-'].intercalate (groups b.toNat) := by
    rw [← text_ofRandom, ← text_ofRandom, h]
  have hg := eq_of_intercalate_eq (by simp [groups, hexDigits_length]) ht
  have ha := a.isLt
  have hb := b.isLt
  refine BitVec.eq_of_toNat_eq ?_
  generalize a.toNat = m at hg ha
  generalize b.toNat = n at hg hb
  simp only [groups, List.cons.injEq, and_true] at hg
  obtain ⟨h₁, h₂, h₃, h₄, h₅⟩ := hg
  have h₁ := hexDigits_injective h₁
  have h₂ := hexDigits_injective h₂
  have h₃ := hexDigits_injective h₃
  have h₄ := hexDigits_injective h₄
  have h₅ := hexDigits_injective h₅
  simp only [Nat.pow_eq] at h₁ h₂ h₃ h₄ h₅
  omega

-- The digits in front of which a version is put.
theorem hexDigits_version {n : Nat} (h : n < 0x1000) :
    List.Forall₂ (· ∈ ·) (hexDigits 4 (0x4000 + n)) (['4'] :: List.replicate 3 hex) := by
  have hd : (0x4000 + n) / Nat.pow 16 3 % 16 = 4 := by
    simp only [Nat.pow_eq]
    omega
  rw [hexDigits_succ, hd]
  exact .cons (List.mem_singleton_self '4') (hexDigits_mem_hex ..)

theorem hexDigits_variant {n : Nat} (h : n < 0x4000) :
    List.Forall₂ (· ∈ ·) (hexDigits 4 (0x8000 + n)) ("89ab".toList :: List.replicate 3 hex) := by
  have digit : ∀ i : Fin 4, Nat.digitChar (8 + i) ∈ "89ab".toList := by decide +kernel
  have hd : (0x8000 + n) / Nat.pow 16 3 % 16 = 8 + n / 0x1000 := by
    simp only [Nat.pow_eq]
    omega
  rw [hexDigits_succ, hd]
  exact .cons (digit ⟨n / 0x1000, by omega⟩) (hexDigits_mem_hex ..)

theorem ofRandom_isUuid (bits : BitVec 122) : (ofRandom bits).IsUuid := by
  unfold IsUuid pattern
  rw [text_ofRandom]
  generalize bits.toNat = n
  have dash {cs : List Char} {ps : List (List Char)} (h : List.Forall₂ (· ∈ ·) cs ps) :
      List.Forall₂ (· ∈ ·) ('-' :: cs) (['-'] :: ps) :=
    .cons (List.mem_singleton_self '-') h
  have hv : n / Nat.pow 2 48 % Nat.pow 2 12 < 0x1000 := Nat.mod_lt _ (by decide)
  have hr : n / Nat.pow 2 60 % Nat.pow 2 14 < 0x4000 := Nat.mod_lt _ (by decide)
  simp only [groups, List.intercalate_cons_cons, List.intercalate_singleton, List.append_assoc,
    List.singleton_append]
  exact List.rel_append (hexDigits_mem_hex ..) <| dash <| List.rel_append (hexDigits_mem_hex ..) <| dash <|
    List.rel_append (hexDigits_version hv) <| dash <| List.rel_append (hexDigits_variant hr) <| dash <|
      hexDigits_mem_hex ..

end AccessControl.RequestId
