import AccessControl.Json.Reader
import AccessControl.Proofs.WrittenLexeme

namespace AccessControl.Json

open Utf8

-- Bytes that a reader passes over between lexemes.
def IsGap (g : Bytes) : Prop :=
  ∀ b ∈ g, isBlankByte b = true

instance (g : Bytes) : Decidable (IsGap g) :=
  List.decidableBAll _ g

theorem isGap_nil : IsGap [] := by
  intro b h
  contradiction

theorem IsGap.skipBlanks_append {g : Bytes} (h : IsGap g) (w : Bytes) :
    skipBlanks (g ++ w) = skipBlanks w :=
  skipBlanks_blank h w

theorem IsGap.skipBlanks_cons {g : Bytes} (h : IsGap g) {b : UInt8} (hb : isBlankByte b = false) (bs : Bytes) :
    skipBlanks (g ++ b :: bs) = b :: bs :=
  (h.skipBlanks_append _).trans <| Json.skipBlanks_cons hb

section

variable {α : Type} (gap : Bytes) (text : α → Bytes)

-- Entries that come after another one.
def entries (xs : List α) : Bytes :=
  xs.flatMap fun x => 0x2C :: (gap ++ text x)

def row : List α → Bytes
  | [] => []
  | x :: xs => gap ++ text x ++ entries gap text xs

theorem row_map {β : Type} (f : β → α) (xs : List β) : row gap text (xs.map f) = row gap (text ∘ f) xs := by
  cases xs
  case nil => rfl
  case cons x xs => simp [row, entries, List.flatMap_map]

end

theorem encode_comma (cs : List Char) : encode (',' :: cs) = 0x2C :: encode cs := rfl

-- A member of an object whose value is given as it is written, with the blanks before it.
def memberText (m : String × Bytes) : Bytes :=
  encode (stringChars m.1) ++ 0x3A :: m.2

theorem endsNumber_comma (bs : Bytes) : EndsNumber (0x2C :: bs) :=
  .cons (by decide) (by decide) (by decide)

theorem endsNumber_listEnd (bs : Bytes) : EndsNumber (0x5D :: bs) :=
  .cons (by decide) (by decide) (by decide)

theorem endsNumber_objectEnd (bs : Bytes) : EndsNumber (0x7D :: bs) :=
  .cons (by decide) (by decide) (by decide)

theorem endsNumber_blank {b : UInt8} (h : isBlankByte b = true) (bs : Bytes) : EndsNumber (b :: bs) := by
  simp only [isBlankByte, Bool.or_eq_true, beq_iff_eq] at h
  rcases h with ((rfl | rfl) | rfl) | rfl <;> exact .cons (by decide) (by decide) (by decide)

theorem IsGap.endsNumber {g w : Bytes} (h : IsGap g) (hw : EndsNumber w) : EndsNumber (g ++ w) := by
  cases g
  case nil => exact hw
  case cons b g => exact endsNumber_blank (h b List.mem_cons_self) (g ++ w)

theorem endsNumber_entries (gap : Bytes) (text : α → Bytes) {w : Bytes} (hw : EndsNumber w) (xs : List α) :
    EndsNumber (entries gap text xs ++ w) := by
  cases xs
  case nil => exact hw
  case cons => exact endsNumber_comma _

-- The first byte of a value is no blank and ends no list.
structure OpensValue (b : UInt8) : Prop where
  blank : isBlankByte b = false
  bracket : b ≠ 0x5D

theorem opensValue_of_isDigit {b : UInt8} (h : isDigit b = true) : OpensValue b where
  blank := isBlankByte_of_isDigit h
  bracket := ne_of_isDigit h rfl

def Opens (text : Bytes) : Prop :=
  ∃ b bs, text = b :: bs ∧ OpensValue b

theorem Opens.ne_nil {text : Bytes} (h : Opens text) : text ≠ [] := by
  have ⟨b, bs, he, _⟩ := h
  rw [he]
  exact List.cons_ne_nil b bs

-- A reader that finds this text comes to this value, and stops where the text ends.
def Brings (item : Bytes → Read β) (text : Bytes) (v : β) : Prop :=
  ∀ rest, EndsNumber rest → item (text ++ rest) = .ok (v, rest)

section Steps

variable {gap text rest : Bytes}

theorem nextItem_first (hg : IsGap gap) (h : Opens text) (w : Bytes) :
    nextItem true (gap ++ (text ++ w)) = .ok (.entry (text ++ w)) := by
  have ⟨b, bs, he, hb⟩ := h
  rw [he, List.cons_append]
  simp [nextItem, hg.skipBlanks_cons hb.blank, hb.bracket]

theorem nextItem_comma (hg : IsGap gap) (h : Opens text) (w : Bytes) :
    nextItem false (0x2C :: (gap ++ (text ++ w))) = .ok (.entry (text ++ w)) := by
  have ⟨b, bs, he, hb⟩ := h
  have hc : skipBlanks (0x2C :: (gap ++ b :: (bs ++ w))) = 0x2C :: (gap ++ b :: (bs ++ w)) := rfl
  rw [he, List.cons_append]
  simp [nextItem, hc, hg.skipBlanks_cons hb.blank, hb.bracket]

theorem nextItem_end (hg : IsGap gap) (first : Bool) :
    nextItem first (gap ++ 0x5D :: rest) = .ok (.stop rest) := by
  rw [nextItem, hg.skipBlanks_cons rfl]
  rfl

theorem nextKey_first (hg : IsGap gap) : nextKey true (gap ++ 0x22 :: rest) = .ok (.entry rest) := by
  rw [nextKey, hg.skipBlanks_cons rfl]
  rfl

theorem nextKey_comma (hg : IsGap gap) : nextKey false (0x2C :: (gap ++ 0x22 :: rest)) = .ok (.entry rest) := by
  have hc : skipBlanks (0x2C :: (gap ++ 0x22 :: rest)) = 0x2C :: (gap ++ 0x22 :: rest) := rfl
  rw [nextKey, hc]
  simp [hg.skipBlanks_cons (b := 0x22) rfl]

theorem nextKey_end (hg : IsGap gap) (first : Bool) :
    nextKey first (gap ++ 0x7D :: rest) = .ok (.stop rest) := by
  rw [nextKey, hg.skipBlanks_cons rfl]
  rfl

variable {α : Type} {bytes entry : Bytes} {first : Bool} {fuel : Nat}

theorem readItems_stop {item : Bytes → Read α} {acc : List α}
    (h : nextItem first bytes = .ok (.stop rest)) :
    readItems item first acc (fuel + 1) bytes = .ok (acc.reverse, rest) := by
  rw [readItems, h]

theorem readItems_entry {item : Bytes → Read α} {acc : List α} {v : α}
    (h : nextItem first bytes = .ok (.entry entry)) (hi : item entry = .ok (v, rest)) :
    readItems item first acc (fuel + 1) bytes = readItems item false (v :: acc) fuel rest := by
  rw [readItems, h]
  simp only [hi]

theorem readMembers_stop {item : Bytes → Read α} {acc : List (String × α)}
    (h : nextKey first bytes = .ok (.stop rest)) :
    readMembers item first acc (fuel + 1) bytes = .ok (acc.reverse, rest) := by
  rw [readMembers, h]

theorem readMembers_entry {item : Bytes → Read α} {acc : List (String × α)} {m : String × α}
    (h : nextKey first bytes = .ok (.entry entry)) (hi : readMember item entry = .ok (m, rest)) :
    readMembers item first acc (fuel + 1) bytes = readMembers item false (m :: acc) fuel rest := by
  rw [readMembers, h]
  simp only [hi]

end Steps

section Items

variable {item : Bytes → Read β} {text : α → Bytes} {value : α → β} {gap close rest : Bytes} {fuel : Nat}

-- The items after the first one, each with the comma before it.
theorem readItems_entries (hg : IsGap gap) (hc : IsGap close) {acc : List β} {xs : List α}
    (ho : ∀ x ∈ xs, Opens (text x)) (hi : ∀ x ∈ xs, Brings item (text x) (value x)) (hf : xs.length < fuel) :
    readItems item false acc fuel (entries gap text xs ++ (close ++ 0x5D :: rest)) =
      .ok (acc.reverse ++ xs.map value, rest) := by
  induction xs generalizing acc fuel
  case nil =>
    have ⟨fuel, hn⟩ := Nat.exists_eq_succ_of_ne_zero (Nat.ne_of_gt hf)
    rw [hn, List.map_nil, List.append_nil]
    exact readItems_stop (nextItem_end hc false)
  case cons x xs hj =>
    have ⟨fuel, hn⟩ := Nat.exists_eq_succ_of_ne_zero (Nat.ne_of_gt <| Nat.zero_lt_of_lt hf)
    have hw : entries gap text (x :: xs) ++ (close ++ 0x5D :: rest) =
        0x2C :: (gap ++ (text x ++ (entries gap text xs ++ (close ++ 0x5D :: rest)))) := by
      simp only [entries, List.flatMap_cons, List.cons_append, List.append_assoc]
    have hs := nextItem_comma hg (ho x List.mem_cons_self) (entries gap text xs ++ (close ++ 0x5D :: rest))
    have hr := hi x List.mem_cons_self _ <|
      endsNumber_entries gap text (hc.endsNumber (endsNumber_listEnd rest)) xs
    rw [hn, hw, readItems_entry hs hr,
      hj (fun y h => ho y <| List.mem_cons_of_mem x h) (fun y h => hi y <| List.mem_cons_of_mem x h)
        (by simp only [List.length_cons] at hf; omega)]
    simp

theorem readItems_row (hg : IsGap gap) (hc : IsGap close) {xs : List α}
    (ho : ∀ x ∈ xs, Opens (text x)) (hi : ∀ x ∈ xs, Brings item (text x) (value x)) (hf : xs.length < fuel) :
    readItems item true [] fuel (row gap text xs ++ (close ++ 0x5D :: rest)) = .ok (xs.map value, rest) := by
  have ⟨fuel, hn⟩ := Nat.exists_eq_succ_of_ne_zero (Nat.ne_of_gt <| Nat.zero_lt_of_lt hf)
  cases xs
  case nil =>
    rw [hn]
    exact readItems_stop (nextItem_end hc true)
  case cons x xs =>
    have hs := nextItem_first hg (ho x List.mem_cons_self) (entries gap text xs ++ (close ++ 0x5D :: rest))
    have hr := hi x List.mem_cons_self _ <|
      endsNumber_entries gap text (hc.endsNumber (endsNumber_listEnd rest)) xs
    rw [hn, row, List.append_assoc, List.append_assoc, readItems_entry hs hr,
      readItems_entries hg hc (fun y h => ho y <| List.mem_cons_of_mem x h)
        (fun y h => hi y <| List.mem_cons_of_mem x h) (by simp only [List.length_cons] at hf; omega)]
    rfl

end Items

section Members

variable {item : Bytes → Read β} {text : α → String × Bytes} {value : α → β} {gap close rest : Bytes} {fuel : Nat}

theorem memberText_append (m : String × Bytes) (rest : Bytes) :
    memberText m ++ rest = 0x22 :: (encode (afterQuote m.1) ++ 0x3A :: (m.2 ++ rest)) := by
  rw [memberText, stringChars_eq, encode_cons, List.append_assoc, List.append_assoc]
  rfl

theorem memberText_ne_nil (m : String × Bytes) : memberText m ≠ [] := by
  rw [← List.append_nil (memberText m), memberText_append]
  exact List.cons_ne_nil _ _

theorem length_value_lt (m : String × Bytes) : m.2.length < (memberText m).length := by
  rw [memberText, List.length_append, List.length_cons]
  omega

theorem readMember_brings (key : String) {w : Bytes} {v : β} (h : Brings item w v) (hr : EndsNumber rest) :
    readMember item (encode (afterQuote key) ++ 0x3A :: (w ++ rest)) = .ok ((key, v), rest) := by
  have hc : readColon (0x3A :: (w ++ rest)) = .ok (w ++ rest) := rfl
  rw [readMember, readString_written]
  simp only [bind, Except.bind, hc, h rest hr]
  rfl

-- The members after the first one, each with the comma before it.
theorem readMembers_entries (hg : IsGap gap) (hc : IsGap close) {acc : List (String × β)} {xs : List α}
    (hi : ∀ x ∈ xs, Brings item (text x).2 (value x)) (hf : xs.length < fuel) :
    readMembers item false acc fuel (entries gap (fun x => memberText (text x)) xs ++ (close ++ 0x7D :: rest)) =
      .ok (acc.reverse ++ xs.map fun x => ((text x).1, value x), rest) := by
  induction xs generalizing acc fuel
  case nil =>
    have ⟨fuel, hn⟩ := Nat.exists_eq_succ_of_ne_zero (Nat.ne_of_gt hf)
    rw [hn, List.map_nil, List.append_nil]
    exact readMembers_stop (nextKey_end hc false)
  case cons x xs hj =>
    have ⟨fuel, hn⟩ := Nat.exists_eq_succ_of_ne_zero (Nat.ne_of_gt <| Nat.zero_lt_of_lt hf)
    have hw : entries gap (fun x => memberText (text x)) (x :: xs) ++ (close ++ 0x7D :: rest) =
        0x2C :: (gap ++ (memberText (text x) ++
          (entries gap (fun x => memberText (text x)) xs ++ (close ++ 0x7D :: rest)))) := by
      simp only [entries, List.flatMap_cons, List.cons_append, List.append_assoc]
    have hr := readMember_brings (text x).1 (hi x List.mem_cons_self) <|
      endsNumber_entries gap (fun x => memberText (text x))
        (hc.endsNumber (endsNumber_objectEnd rest)) xs
    rw [hn, hw, memberText_append, readMembers_entry (nextKey_comma hg) hr,
      hj (fun y h => hi y <| List.mem_cons_of_mem x h) (by simp only [List.length_cons] at hf; omega)]
    simp

theorem readMembers_row (hg : IsGap gap) (hc : IsGap close) {xs : List α}
    (hi : ∀ x ∈ xs, Brings item (text x).2 (value x)) (hf : xs.length < fuel) :
    readMembers item true [] fuel (row gap (fun x => memberText (text x)) xs ++ (close ++ 0x7D :: rest)) =
      .ok (xs.map fun x => ((text x).1, value x), rest) := by
  have ⟨fuel, hn⟩ := Nat.exists_eq_succ_of_ne_zero (Nat.ne_of_gt <| Nat.zero_lt_of_lt hf)
  cases xs
  case nil =>
    rw [hn]
    exact readMembers_stop (nextKey_end hc true)
  case cons x xs =>
    have hr := readMember_brings (text x).1 (hi x List.mem_cons_self) <|
      endsNumber_entries gap (fun x => memberText (text x))
        (hc.endsNumber (endsNumber_objectEnd rest)) xs
    rw [hn, row, List.append_assoc, List.append_assoc, memberText_append, readMembers_entry (nextKey_first hg) hr,
      readMembers_entries hg hc (fun y h => hi y <| List.mem_cons_of_mem x h)
        (by simp only [List.length_cons] at hf; omega)]
    rfl

end Members

section Length

variable {α : Type} (gap : Bytes) (text : α → Bytes) {x : α} {xs : List α}

-- A row has a byte for each of its entries, and is as long as each of them.
theorem length_le_entries (xs : List α) : xs.length ≤ (entries gap text xs).length := by
  induction xs
  case nil => exact Nat.le_refl 0
  case cons x xs hi =>
    simp only [entries, List.flatMap_cons, List.length_append, List.length_cons] at hi ⊢
    omega

theorem length_entry_le (h : x ∈ xs) : (text x).length ≤ (entries gap text xs).length := by
  have ⟨ys, zs, hs⟩ := List.append_of_mem h
  simp only [hs, entries, List.flatMap_append, List.flatMap_cons, List.length_append, List.length_cons]
  omega

theorem length_le_row (h : ∀ x ∈ xs, text x ≠ []) : xs.length ≤ (row gap text xs).length := by
  cases xs
  case nil => exact Nat.le_refl 0
  case cons x xs =>
    have hl := length_le_entries gap text xs
    have hx := List.length_pos_iff.mpr (h x List.mem_cons_self)
    simp only [row, List.length_append, List.length_cons]
    omega

theorem length_entry_le_row (h : x ∈ xs) : (text x).length ≤ (row gap text xs).length := by
  cases xs
  case nil => contradiction
  case cons y ys =>
    simp only [row, List.length_append]
    cases h
    case head => omega
    case tail h =>
      have hl := length_entry_le gap text h
      omega

end Length

end AccessControl.Json
