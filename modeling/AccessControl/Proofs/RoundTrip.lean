import AccessControl.Proofs.Rows

namespace AccessControl.Json

open Utf8

-- What a reader brings back from its text, with brackets nested `depth` deep at most.
inductive Restorable : (depth : Nat) → Json → Prop
  | null : Restorable depth .null
  | bool (b : Bool) : Restorable depth (.bool b)
  | integer {i : Int} (hl : -(Nat.pow 2 63 : Nat) ≤ i) (hh : i ≤ maxSignificand) :
    Restorable depth (.number (.integer i))
  | string (s : String) : Restorable depth (.string s)
  | array {vs : List Json} (h : ∀ v ∈ vs, Restorable depth v) : Restorable (depth + 1) (.array vs)
  | object {ms : List (String × Json)} (sorted : sortMembers ms = ms)
    (h : ∀ m ∈ ms, Restorable depth m.2) : Restorable (depth + 1) (.object ms)

-- A value as it is written.
def written (v : Json) : Bytes :=
  encode (compactChars v)

def writtenMember (m : String × Json) : String × Bytes :=
  (m.1, written m.2)

theorem encode_compactItems (vs : List Json) : encode (compactItems vs) = row [] written vs := by
  cases vs
  case nil => rfl
  case cons v vs =>
    rw [row, List.nil_append]
    induction vs generalizing v
    case nil => simp [compactItems, entries, written]
    case cons w ws hi => simp [compactItems, hi, encode_comma, entries, written]

theorem encode_compactMembers (ms : List (String × Json)) :
    encode (compactMembers ms) = row [] (fun m => memberText (writtenMember m)) ms := by
  have hc (cs : List Char) : encode (':' :: cs) = 0x3A :: encode cs := rfl
  cases ms
  case nil => rfl
  case cons m ms =>
    rw [row, List.nil_append]
    induction ms generalizing m
    case nil => simp [compactMembers, entries, memberText, writtenMember, written, hc]
    case cons n ns hi =>
      simp [compactMembers, hi, encode_comma, hc, entries, memberText, writtenMember, written]

theorem encode_toDigits (n : Nat) :
    ∃ b bs, encode (Nat.toDigits 10 n) = b :: bs ∧ isDigit b = true := by
  cases hd : Nat.toDigits 10 n
  case nil => exact absurd hd Nat.toDigits_ne_nil
  case cons c cs =>
    have hc : c.isDigit = true := Nat.isDigit_of_mem_toDigits (b := 10) (n := n) (by decide) (by decide)
      (hd ▸ List.mem_cons_self)
    have ⟨b, he, hb, _⟩ := encode_digit hc
    exact ⟨b, encode cs, by rw [encode_cons, he]; rfl, hb⟩

theorem written_array (vs : List Json) : written (.array vs) = 0x5B :: (row [] written vs ++ [0x5D]) := by
  rw [written, compactChars, ← List.cons_append, encode_append, encode_cons, encode_compactItems]
  rfl

theorem written_object (ms : List (String × Json)) :
    written (.object ms) = 0x7B :: (row [] (fun m => memberText (writtenMember m)) ms ++ [0x7D]) := by
  rw [written, compactChars, ← List.cons_append, encode_append, encode_cons, encode_compactMembers]
  rfl

theorem opens_written {depth : Nat} {v : Json} (h : Restorable depth v) : Opens (written v) := by
  cases h
  case null => exact ⟨_, _, rfl, by decide, by decide⟩
  case bool b => cases b <;> exact ⟨_, _, rfl, by decide, by decide⟩
  case integer i hl hh =>
    cases i
    case ofNat n =>
      have ⟨b, bs, he, hb⟩ := encode_toDigits n
      exact ⟨b, bs, he, opensValue_of_isDigit hb⟩
    case negSucc n => exact ⟨_, _, rfl, by decide, by decide⟩
  case string s => exact ⟨_, _, rfl, by decide, by decide⟩
  case array depth vs h => exact ⟨_, _, rfl, by decide, by decide⟩
  case object depth ms hs h => exact ⟨_, _, rfl, by decide, by decide⟩

theorem integerOf_true {n : Nat} (h : n + 1 ≤ Nat.pow 2 63) :
    integerOf true (n + 1) = .integer (.negSucc n) := by
  have hn : ¬(n + 1 = 0 ∨ Nat.pow 2 63 < n + 1) := by
    rintro (hz | hl)
    · contradiction
    · exact Nat.not_lt.mpr h hl
  rw [integerOf, if_pos rfl, if_neg hn]
  rfl

section Value

variable (fuel depth : Nat) (bytes : Bytes)

theorem readValue_quote :
    readValue fuel depth (0x22 :: bytes) =
      (readString bytes).map fun (s, rest) => (.string s, rest) := by
  rw [readValue.eq_def]
  rfl

theorem readValue_minus :
    readValue fuel depth (0x2D :: bytes) =
      (readNumber true bytes).map fun (n, rest) => (.number n, rest) := by
  rw [readValue.eq_def]
  rfl

theorem readValue_digit {b : UInt8} (h : isDigit b = true) :
    readValue fuel depth (b :: bytes) =
      (readNumber false (b :: bytes)).map fun (n, rest) => (.number n, rest) := by
  have hne {c : UInt8} (hc : isDigit c = false) : b ≠ c := ne_of_isDigit h hc
  rw [readValue.eq_def, skipBlanks_cons (opensValue_of_isDigit h).blank]
  simp only [if_neg (hne (c := 0x6E) rfl), if_neg (hne (c := 0x74) rfl), if_neg (hne (c := 0x66) rfl),
    if_neg (hne (c := 0x22) rfl), if_neg (hne (c := 0x2D) rfl), if_pos h]

theorem readValue_bracket :
    readValue fuel (depth + 1) (0x5B :: bytes) =
      (readItems (readValue fuel depth) true [] fuel bytes).map fun (vs, rest) => (.array vs, rest) := by
  rw [readValue.eq_def]
  rfl

theorem readValue_brace :
    readValue fuel (depth + 1) (0x7B :: bytes) =
      (readMembers (readValue fuel depth) true [] fuel bytes).map fun (ms, rest) =>
        (ofMembers ms, rest) := by
  rw [readValue.eq_def]
  rfl

end Value

-- Members are brought in order as an object is read, in whatever order they were written.
theorem readValue_members {depth fuel : Nat} {ms : List (String × Json)}
    (hf : (written (.object ms)).length < fuel)
    (h : ∀ m ∈ ms, (written m.2).length < fuel → Brings (readValue fuel depth) (written m.2) m.2) :
    Brings (readValue fuel (depth + 1)) (written (.object ms)) (ofMembers ms) := by
  intro rest _
  rw [written_object, List.length_cons, List.length_append, List.length_singleton] at hf
  have hn : ms.length ≤ (row [] (fun m => memberText (writtenMember m)) ms).length :=
    length_le_row [] _ fun m _ => memberText_ne_nil (writtenMember m)
  have hr : ∀ m ∈ ms, Brings (readValue fuel depth) (writtenMember m).2 m.2 := fun m hm =>
    h m hm <| by
      have hl : (written m.2).length < (memberText (writtenMember m)).length :=
        length_value_lt (writtenMember m)
      have he := length_entry_le_row [] (fun m => memberText (writtenMember m)) hm
      omega
  rw [written_object, List.cons_append, List.append_assoc, List.singleton_append, readValue_brace,
    ← List.nil_append (0x7D :: rest), readMembers_row isGap_nil isGap_nil hr (by omega)]
  simp only [Except.map, writtenMember, List.map_id']

-- By induction on the value; lists and objects run their readers of entries over it.
theorem readValue_written {depth : Nat} {v : Json} (h : Restorable depth v) {fuel : Nat}
    (hf : (written v).length < fuel) : Brings (readValue fuel depth) (written v) v := by
  induction h
  case null =>
    intro rest _
    rw [readValue.eq_def]
    rfl
  case bool b =>
    intro rest _
    rw [readValue.eq_def]
    cases b <;> rfl
  case integer depth i hl hh =>
    intro rest hr
    cases i
    case ofNat n =>
      have ⟨b, bs, he, hb⟩ := encode_toDigits n
      have hn : n ≤ maxSignificand := Int.ofNat_le.mp hh
      have hd := readNumber_written false hn hr
      rw [he, List.cons_append] at hd
      have hw : written (.number (.integer (.ofNat n))) = b :: bs := he
      rw [hw, List.cons_append, readValue_digit fuel depth _ hb, hd]
      rfl
    case negSucc n =>
      have hn : n + 1 ≤ Nat.pow 2 63 := by
        have hi : -(Nat.pow 2 63 : Nat) ≤ Int.negSucc n := hl
        omega
      have hm : n + 1 ≤ maxSignificand := Nat.le_trans hn (by decide)
      have hd := readNumber_written true hm hr
      have hw : written (.number (.integer (.negSucc n))) ++ rest =
        0x2D :: (encode (Nat.toDigits 10 (n + 1)) ++ rest) := rfl
      rw [hw, readValue_minus, hd, integerOf_true hn]
      rfl
  case string depth s =>
    intro rest _
    have hw : written (.string s) ++ rest = 0x22 :: (encode (afterQuote s) ++ rest) := rfl
    rw [hw, readValue_quote, readString_written]
    rfl
  case array depth vs hv hi =>
    intro rest _
    have ho : ∀ v ∈ vs, Opens (written v) := fun v h => opens_written (hv v h)
    rw [written_array, List.length_cons, List.length_append, List.length_singleton] at hf
    have hn := length_le_row [] written fun v h => (ho v h).ne_nil
    have hr : ∀ v ∈ vs, Brings (readValue fuel depth) (written v) v := fun v h =>
      hi v h (by have := length_entry_le_row [] written h; omega)
    rw [written_array, List.cons_append, List.append_assoc, List.singleton_append, readValue_bracket,
      ← List.nil_append (0x5D :: rest), readItems_row isGap_nil isGap_nil ho hr (by omega), List.map_id']
    rfl
  case object depth ms hs hm hi =>
    have ho : ofMembers ms = .object ms := congrArg Json.object hs
    exact ho ▸ readValue_members hf fun m h hl => hi m h hl

theorem encodeString_compact (v : Json) : encodeString v.compact = written v := by
  rw [encodeString, compact, String.toList_ofList]
  rfl

theorem read_compact {v : Json} (h : Restorable maxDepth v) : read (encodeString v.compact) = .ok v := by
  have hr := readValue_written h (Nat.lt_succ_self _) [] .nil
  rw [List.append_nil] at hr
  rw [read, encodeString_compact, hr]
  rfl

end AccessControl.Json
