import AccessControl.Proofs.Skipping
import AccessControl.Proofs.WrittenNumber

namespace AccessControl.Json

open Utf8

-- One value at the front of a text, as it stands there.
def takeValue (bytes : Bytes) : Read Bytes :=
  let text := skipBlanks bytes
  (skipValue text.length text).map fun rest => (text.take (text.length - rest.length), rest)

-- What was read, if nothing but blanks comes after it.
def whole? (r : Read α) : Option α :=
  match r with
  | .ok (v, rest) => if (skipBlanks rest).isEmpty then some v else none
  | .error _ => none

-- The value that a text consists of, and nothing else.
def document? (text : Bytes) : Option Bytes :=
  whole? (takeValue text)

-- A text that is one document, as an object, a list or a string.
def members? (text : Bytes) : Option (List (String × Bytes)) :=
  match skipBlanks text with
  | [] => none
  | b :: rest => if b = 0x7B then whole? (readMembers takeValue true [] (rest.length + 1) rest) else none

def items? (text : Bytes) : Option (List Bytes) :=
  match skipBlanks text with
  | [] => none
  | b :: rest => if b = 0x5B then whole? (readItems takeValue true [] (rest.length + 1) rest) else none

def string? (text : Bytes) : Option String :=
  match skipBlanks text with
  | [] => none
  | b :: rest => if b = 0x22 then whole? (readString rest) else none

def member? (key : String) (text : Bytes) : Option Bytes := do
  (← members? text).lookup key

section Taking

variable {text gap close after rest : Bytes}

theorem IsValue.takeValue_append (h : IsValue text) (hg : IsGap gap) (hr : EndsNumber rest) :
    takeValue (gap ++ (text ++ rest)) = .ok (text, rest) := by
  have ⟨b, bs, he, ho⟩ := h.opens
  have hb : skipBlanks (gap ++ (text ++ rest)) = text ++ rest := by
    rw [hg.skipBlanks_append, he, List.cons_append, skipBlanks_cons ho.blank]
  have ⟨n, hn, hp⟩ := h.passed
  have ⟨k, hk⟩ : ∃ k, 2 * (text ++ rest).length + 2 = k + n :=
    Nat.exists_eq_add_of_le' <| by rw [List.length_append]; omega
  have hs : skipValue (text ++ rest).length (text ++ rest) = .ok rest := by
    rw [skipValue, hk, hp k [] rest hr]
    rfl
  have hl : (text ++ rest).length - rest.length = text.length := by rw [List.length_append]; omega
  rw [takeValue, hb]
  simp only [hs, hl, Except.map, List.take_left]

theorem whole?_ok {α : Type} {v : α} (ha : IsGap after) : whole? (.ok (v, after)) = some v := by
  have hb : skipBlanks after = [] := by
    rw [← List.append_nil after, ha.skipBlanks_append]
    rfl
  simp only [whole?, hb]
  rfl

variable {α : Type} {xs : List α}

theorem items?_bracketed {item : α → Bytes} (hg : IsGap gap) (hc : IsGap close) (ha : IsGap after)
    (h : ∀ x ∈ xs, IsValue (item x)) :
    items? (bracketed .list (row gap item xs) close ++ after) = some (xs.map item) := by
  have ho : ∀ x ∈ xs, Opens (item x) := fun x hx => (h x hx).opens
  have hb : ∀ x ∈ xs, Brings takeValue (item x) (item x) := fun x hx rest hr =>
    (h x hx).takeValue_append isGap_nil hr
  have hl : xs.length ≤ (row gap item xs).length := length_le_row gap item fun x hx => (ho x hx).ne_nil
  rw [bracketed_append, items?, skipBlanks_cons rfl]
  simp only [if_pos (show Bracket.opening .list = 0x5B from rfl)]
  rw [show Bracket.closing .list = 0x5D from rfl, readItems_row hg hc ho hb, whole?_ok ha]
  rw [List.length_append]
  omega

-- The members are found without the blanks after their keys.
theorem members?_bracketed {key : α → String} {value : α → Bytes} {before : Bytes} (hb : IsGap before)
    (hg : IsGap gap) (hc : IsGap close) (ha : IsGap after) (h : ∀ x ∈ xs, IsValue (value x)) :
    members? (bracketed .object (row gap (fun x => memberText (key x, before ++ value x)) xs) close ++ after) =
      some (xs.map fun x => (key x, value x)) := by
  have hv : ∀ x ∈ xs, Brings takeValue (key x, before ++ value x).2 (value x) := fun x hx rest hr => by
    rw [List.append_assoc]
    exact (h x hx).takeValue_append hb hr
  have hl : xs.length ≤ (row gap (fun x => memberText (key x, before ++ value x)) xs).length :=
    length_le_row gap _ fun x _ => memberText_ne_nil _
  rw [bracketed_append, members?, skipBlanks_cons rfl]
  simp only [if_pos (show Bracket.opening .object = 0x7B from rfl)]
  rw [show Bracket.closing .object = 0x7D from rfl, readMembers_row hg hc hv, whole?_ok ha]
  rw [List.length_append]
  omega

end Taking

-- A value as it is printed, inside of as many brackets as its level says.
def printed (level : Nat) (v : Json) : Bytes :=
  encode (prettyChars level v)

def lineBreak (level : Nat) : Bytes :=
  encode (newLine level)

theorem isGap_lineBreak (level : Nat) : IsGap (lineBreak level) := by
  intro b hb
  have ⟨c, hc, hm⟩ := List.mem_flatMap.mp hb
  rcases List.mem_cons.mp hc with rfl | hs
  · cases List.mem_singleton.mp hm
    rfl
  · cases List.eq_of_mem_replicate hs
    cases List.mem_singleton.mp hm
    rfl

theorem isGap_space : IsGap [0x20] :=
  List.forall_mem_singleton.mpr rfl

-- What stands before the end of a bracket: a new line, unless the bracket is empty.
def closingBreak (level : Nat) (xs : List α) : Bytes :=
  if xs.isEmpty then [] else lineBreak level

theorem isGap_closingBreak (level : Nat) (xs : List α) : IsGap (closingBreak level xs) := by
  unfold closingBreak
  split
  case isTrue => exact isGap_nil
  case isFalse => exact isGap_lineBreak level

def printedMember (level : Nat) (m : String × Json) : Bytes :=
  memberText (m.1, [0x20] ++ printed level m.2)

theorem encode_prettyItems (level : Nat) (v : Json) (vs : List Json) :
    encode (prettyItems level (v :: vs)) = row (lineBreak level) (printed level) (v :: vs) := by
  rw [row]
  induction vs generalizing v
  case nil => simp [prettyItems, entries, printed, lineBreak]
  case cons w ws hi => simp [prettyItems, hi, encode_comma, entries, printed, lineBreak]

theorem encode_prettyMembers (level : Nat) (m : String × Json) (ms : List (String × Json)) :
    encode (prettyMembers level (m :: ms)) = row (lineBreak level) (printedMember level) (m :: ms) := by
  have hc (cs : List Char) : encode (':' :: ' ' :: cs) = 0x3A :: 0x20 :: encode cs := rfl
  rw [row]
  induction ms generalizing m
  case nil => simp [prettyMembers, entries, printedMember, memberText, printed, lineBreak, hc]
  case cons n ns hi =>
    simp [prettyMembers, hi, encode_comma, entries, printedMember, memberText, printed, lineBreak, hc]

theorem printed_array (level : Nat) (vs : List Json) :
    printed level (.array vs) =
      bracketed .list (row (lineBreak (level + 1)) (printed (level + 1)) vs) (closingBreak level vs) := by
  cases vs
  case nil => rfl
  case cons v vs =>
    rw [printed, prettyChars, List.append_assoc, encode_append, encode_cons, encode_prettyItems, encode_append]
    rfl

theorem printed_object (level : Nat) (ms : List (String × Json)) :
    printed level (.object ms) =
      bracketed .object (row (lineBreak (level + 1)) (printedMember (level + 1)) ms) (closingBreak level ms) := by
  cases ms
  case nil => rfl
  case cons m ms =>
    rw [printed, prettyChars, List.append_assoc, encode_append, encode_cons, encode_prettyMembers, encode_append]
    rfl

theorem isValue_word {b : UInt8} {body : Bytes} (ho : OpensValue b) (hl : b ≠ 0x5B) (hb : b ≠ 0x7B)
    (hs : ∀ rest, skipScalar b (body ++ rest) = .ok rest) : IsValue (b :: body) :=
  isValue_scalar ho hl hb fun rest _ => hs rest

theorem isValue_number (n : Number) : IsValue (encode n.chars) := by
  have ⟨w, hs, hw⟩ := skipNumber_chars n
  rcases hw with hw | hw <;> rw [hw]
  · exact isValue_unsigned hs
  · exact isValue_negative hs

mutual

-- A printed value is one value, on the structure of the value.
theorem isValue_printed (level : Nat) : (v : Json) → IsValue (printed level v)
  | .null => isValue_word ⟨by decide, by decide⟩ (by decide) (by decide) fun _ => rfl
  | .bool true => isValue_word ⟨by decide, by decide⟩ (by decide) (by decide) fun _ => rfl
  | .bool false => isValue_word ⟨by decide, by decide⟩ (by decide) (by decide) fun _ => rfl
  | .number n => isValue_number n
  | .string s => isValue_word ⟨by decide, by decide⟩ (by decide) (by decide) fun rest =>
    skipString_of_readStringFrom (readString_written s)
  | .array vs => by
    rw [printed_array]
    exact isValue_bracketed (isGap_lineBreak _) (isGap_closingBreak _ _) fun v hv =>
      (isValue_items (level + 1) vs v hv).item
  | .object ms => by
    rw [printed_object]
    exact isValue_bracketed (isGap_lineBreak _) (isGap_closingBreak _ _) fun m hm =>
      (isValue_members (level + 1) ms m hm).member isGap_space

theorem isValue_items (level : Nat) : (vs : List Json) → ∀ v ∈ vs, IsValue (printed level v)
  | [], _, h => nomatch h
  | v :: vs, w, h => by
    cases h
    case head => exact isValue_printed level v
    case tail h => exact isValue_items level vs w h

theorem isValue_members (level : Nat) :
    (ms : List (String × Json)) → ∀ m ∈ ms, IsValue (printed level m.2)
  | [], _, h => nomatch h
  | (key, v) :: ms, n, h => by
    cases h
    case head => exact isValue_printed level v
    case tail h => exact isValue_members level ms n h

end

theorem lookup_map_snd (f : α → β) (key : String) (ms : List (String × α)) :
    (ms.map fun m => (m.1, f m.2)).lookup key = (ms.lookup key).map f := by
  induction ms
  case nil => rfl
  case cons m ms hi =>
    rw [List.map_cons, List.lookup_cons, List.lookup_cons]
    split
    case h_1 => rfl
    case h_2 => exact hi

section Looking

variable {after : Bytes} (ha : IsGap after) (level : Nat)
include ha

theorem document?_printed (v : Json) : document? (printed level v ++ after) = some (printed level v) := by
  have hv := (isValue_printed level v).takeValue_append isGap_nil (ha.endsNumber .nil)
  rw [List.nil_append, List.append_nil] at hv
  rw [document?, hv, whole?_ok ha]

theorem items?_printed (vs : List Json) :
    items? (printed level (.array vs) ++ after) = some (vs.map (printed (level + 1))) := by
  rw [printed_array]
  exact items?_bracketed (isGap_lineBreak _) (isGap_closingBreak _ _) ha fun v _ => isValue_printed _ v

theorem members?_printed (ms : List (String × Json)) :
    members? (printed level (.object ms) ++ after) = some (ms.map fun m => (m.1, printed (level + 1) m.2)) := by
  rw [printed_object]
  exact members?_bracketed isGap_space (isGap_lineBreak _) (isGap_closingBreak _ _) ha fun m _ =>
    isValue_printed _ m.2

theorem string?_printed (s : String) : string? (printed level (.string s) ++ after) = some s := by
  have hw : printed level (.string s) ++ after = 0x22 :: (encode (afterQuote s) ++ after) := rfl
  rw [hw, string?, skipBlanks_cons rfl]
  simp only [if_pos, readString_written, whole?_ok ha]

omit ha in
theorem members?_printed_array (vs : List Json) : members? (printed level (.array vs) ++ after) = none := by
  rw [printed_array, bracketed_append, members?, skipBlanks_cons rfl]
  rfl

theorem member?_printed {v u : Json} {key : String} (h : v.get? key = some u) :
    member? key (printed level v ++ after) = some (printed (level + 1) u) := by
  cases v
  case object ms =>
    have hm : ms.lookup key = some u := h
    rw [member?, members?_printed ha]
    simp only [Option.bind_eq_bind, Option.bind_some, lookup_map_snd, hm, Option.map_some]
  all_goals contradiction

theorem member?_string {v : Json} {key s : String} (h : v.get? key = some (.string s)) :
    (member? key (printed level v ++ after)).bind string? = some s := by
  have hs := string?_printed isGap_nil (level + 1) s
  rw [List.append_nil] at hs
  rw [member?_printed ha level h, Option.bind_some, hs]

end Looking

end AccessControl.Json
