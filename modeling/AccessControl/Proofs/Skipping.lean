import AccessControl.Proofs.Closing
import AccessControl.Proofs.PassedNumber
import AccessControl.Proofs.Rows
import Mathlib.Data.List.DropRight

namespace AccessControl.Json

open Utf8

theorem skipKey_eq (bytes : Bytes) :
    skipKey bytes =
      match skipBlanks bytes with
      | [] => .error .eofObject
      | b :: rest => if b = 0x22 then (skipString rest).bind readColon else .error .keyNotString := by
  rw [skipKey]
  cases skipBlanks bytes
  case nil => rfl
  case cons b rest =>
    dsimp only
    cases skipString rest <;> rfl

-- A value without brackets, from its first byte on.
def skipScalar (b : UInt8) (rest : Bytes) : Except ReadError Bytes :=
  if b = 0x6E then readNull rest
  else if b = 0x74 then readTrue rest
  else if b = 0x66 then readFalse rest
  else if b = 0x2D then skipNumber rest
  else if isDigit b then skipNumber (b :: rest)
  else if b = 0x22 then skipString rest
  else .error .expectedValue

theorem skipScalar_digit {b : UInt8} (h : isDigit b = true) (w : Bytes) : skipScalar b w = skipNumber (b :: w) := by
  simp only [skipScalar, if_neg (ne_of_isDigit h (c := 0x6E) rfl), if_neg (ne_of_isDigit h (c := 0x74) rfl),
    if_neg (ne_of_isDigit h (c := 0x66) rfl), if_neg (ne_of_isDigit h (c := 0x2D) rfl), if_pos h]

theorem isDigit_of_skipNumber {b : UInt8} {w r : Bytes} (h : skipNumber (b :: w) = .ok r) : isDigit b = true := by
  rw [skipNumber_cons] at h
  split_ifs at h with hz hd
  · exact hz ▸ rfl
  · exact hd

-- After a value, or after the end of a bracket.
def skipOn (fuel : Nat) (stack : List Bracket) (rest : Bytes) : Except ReadError Bytes :=
  if stack.isEmpty then .ok rest else skipFrom fuel (.inside true) stack rest

theorem skipFrom_value (fuel : Nat) (stack : List Bracket) (bytes : Bytes) :
    skipFrom (fuel + 1) .value stack bytes =
      match skipBlanks bytes with
      | [] => .error .eofValue
      | b :: rest =>
        if b = 0x5B then skipFrom fuel (.inside false) (.list :: stack) rest
        else if b = 0x7B then skipFrom fuel (.inside false) (.object :: stack) rest
        else (skipScalar b rest).bind (skipOn fuel stack) := by
  rw [skipFrom]
  cases skipBlanks bytes
  case nil => rfl
  case cons b rest =>
    dsimp only
    rw [← skipScalar]
    cases skipScalar b rest <;> rfl

theorem skipFrom_scalar {fuel : Nat} {stack : List Bracket} {b : UInt8} {w t r : Bytes} (hb : skipBlanks w = b :: t)
    (h : skipScalar b t = .ok r) : skipFrom (fuel + 1) .value stack w = skipOn fuel stack r := by
  have hl : b ≠ 0x5B := fun hl => by
    subst hl
    contradiction
  have ho : b ≠ 0x7B := fun ho => by
    subst ho
    contradiction
  rw [skipFrom_value, hb]
  simp only [if_neg hl, if_neg ho, h]
  rfl

-- An item or a member inside of a bracket.
def skipEntry (fuel : Nat) (top : Bracket) (stack : List Bracket) (bytes : Bytes) :
    Except ReadError Bytes :=
  match top with
  | .list => skipFrom fuel .value (.list :: stack) bytes
  | .object => (skipKey bytes).bind (skipFrom fuel .value (.object :: stack))

theorem skipFrom_inside (fuel : Nat) (comma : Bool) (top : Bracket) (stack : List Bracket) (bytes : Bytes) :
    skipFrom (fuel + 1) (.inside comma) (top :: stack) bytes =
      match skipBlanks bytes with
      | [] => .error (if top = .list then .eofList else .eofObject)
      | b :: rest =>
        if b = 0x5D ∧ top = .list ∨ b = 0x7D ∧ top = .object then skipOn fuel stack rest
        else if comma ∧ b ≠ 0x2C then
          .error (if top = .list then .expectedListEnd else .expectedObjectEnd)
        else skipEntry fuel top stack (if comma then rest else b :: rest) := by
  rw [skipFrom]
  cases skipBlanks bytes
  case nil => rfl
  case cons b rest =>
    dsimp only
    cases top
    case list => rfl
    case object =>
      rw [skipEntry]
      cases skipKey (if comma then rest else b :: rest) <;> rfl

-- The brackets, as they are written.
def Bracket.opening : Bracket → UInt8
  | .list => 0x5B
  | .object => 0x7B

def Bracket.closing : Bracket → UInt8
  | .list => 0x5D
  | .object => 0x7D

section Values

variable {fuel : Nat} {top : Bracket} {stack : List Bracket} {gap close rest text : Bytes}

-- A text that is one value: a number of steps, two a byte at most, takes a reader over it.
structure IsValue (text : Bytes) : Prop where
  opens : Opens text
  passed : ∃ n < 2 * text.length, ∀ fuel stack rest, EndsNumber rest →
    skipFrom (fuel + n) .value stack (text ++ rest) = skipOn fuel stack rest

-- A text that is one entry inside of a bracket, with or without blanks around it.
structure IsEntry (top : Bracket) (text : Bytes) : Prop where
  opens : ∃ b bs, (∀ w, skipBlanks (text ++ w) = b :: (bs ++ w)) ∧ b ≠ top.closing
  passed : ∃ n < 2 * text.length, ∀ fuel stack gap rest, IsGap gap → EndsNumber rest →
    skipEntry (fuel + n) top stack (gap ++ (text ++ rest)) = skipFrom fuel (.inside true) (top :: stack) rest

theorem skipFrom_gap (hg : IsGap gap) (fuel : Nat) (stack : List Bracket) (w : Bytes) :
    skipFrom fuel .value stack (gap ++ w) = skipFrom fuel .value stack w := by
  cases fuel
  case zero => rfl
  case succ => rw [skipFrom_value, skipFrom_value, hg.skipBlanks_append]

theorem isValue_scalar {b : UInt8} {body : Bytes} (ho : OpensValue b) (hl : b ≠ 0x5B) (hb : b ≠ 0x7B)
    (hs : ∀ rest, EndsNumber rest → skipScalar b (body ++ rest) = .ok rest) : IsValue (b :: body) where
  opens := ⟨b, body, rfl, ho⟩
  passed := by
    refine ⟨1, by simp only [List.length_cons]; omega, fun fuel stack rest hr => ?_⟩
    rw [skipFrom_value, List.cons_append, skipBlanks_cons ho.blank]
    simp only [if_neg hl, if_neg hb, hs rest hr]
    rfl

theorem isValue_unsigned (h : skipNumber text = .ok []) : IsValue text := by
  cases text
  case nil => contradiction
  case cons b body =>
    have hd := isDigit_of_skipNumber h
    refine isValue_scalar (opensValue_of_isDigit hd) (ne_of_isDigit hd rfl) (ne_of_isDigit hd rfl) ?_
    intro rest hr
    rw [skipScalar_digit hd]
    exact skipNumber_append h hr

theorem isValue_negative (h : skipNumber text = .ok []) : IsValue (0x2D :: text) :=
  isValue_scalar ⟨by decide, by decide⟩ (by decide) (by decide) fun _ hr => skipNumber_append h hr

theorem skipBlanks_skipBlanks (w : Bytes) : skipBlanks (skipBlanks w) = skipBlanks w :=
  List.dropWhile_idempotent isBlankByte w

theorem skipEntry_blanks (fuel : Nat) (top : Bracket) (stack : List Bracket) (w : Bytes) :
    skipEntry fuel top stack (skipBlanks w) = skipEntry fuel top stack w := by
  cases top
  case list =>
    cases fuel
    case zero => rfl
    case succ => simp only [skipEntry, skipFrom_value, skipBlanks_skipBlanks]
  case object => simp only [skipEntry, skipKey_eq, skipBlanks_skipBlanks]

theorem IsValue.item (h : IsValue text) : IsEntry .list text where
  opens := by
    have ⟨b, bs, he, ho⟩ := h.opens
    exact ⟨b, bs, fun w => he ▸ skipBlanks_cons ho.blank, ho.bracket⟩
  passed := by
    have ⟨n, hn, hp⟩ := h.passed
    refine ⟨n, hn, fun fuel stack gap rest hg hr => ?_⟩
    rw [skipEntry, skipFrom_gap hg, hp fuel _ rest hr]
    rfl

-- Bytes from inside the quotes of a string to the last of them, whatever comes after.
def ClosesString (key : Bytes) : Prop :=
  ∀ rest, skipString (key ++ rest) = .ok rest

theorem readColon_append {middle : Bytes} (hm : IsGap middle) (w : Bytes) :
    readColon (middle ++ 0x3A :: w) = .ok w := by
  rw [readColon, hm.skipBlanks_cons rfl]
  rfl

theorem skipKey_append {key middle : Bytes} (hg : IsGap gap) (hk : ClosesString key) (hm : IsGap middle)
    (w : Bytes) : skipKey (gap ++ 0x22 :: (key ++ (middle ++ 0x3A :: w))) = .ok w := by
  rw [skipKey_eq, hg.skipBlanks_cons rfl]
  simp only [if_pos, hk _, Except.bind, readColon_append hm]

theorem IsValue.keyed {key middle : Bytes} (hk : ClosesString key) (hm : IsGap middle) (hg : IsGap gap)
    (h : IsValue text) : IsEntry .object (0x22 :: (key ++ (middle ++ 0x3A :: (gap ++ text)))) where
  opens := ⟨0x22, _, fun w => skipBlanks_cons rfl, by decide⟩
  passed := by
    have ⟨n, hn, hp⟩ := h.passed
    refine ⟨n, by simp only [List.length_cons, List.length_append]; omega, ?_⟩
    intro fuel stack before rest hb hr
    have hw : 0x22 :: (key ++ (middle ++ 0x3A :: (gap ++ text))) ++ rest =
        0x22 :: (key ++ (middle ++ 0x3A :: (gap ++ (text ++ rest)))) := by
      simp only [List.cons_append, List.append_assoc]
    rw [hw, skipEntry, skipKey_append hb hk hm]
    show skipFrom (fuel + n) .value (.object :: stack) (gap ++ (text ++ rest)) = _
    rw [skipFrom_gap hg, hp fuel _ rest hr]
    rfl

theorem IsValue.member {key : String} (hg : IsGap gap) (h : IsValue text) :
    IsEntry .object (memberText (key, gap ++ text)) := by
  have hk : ClosesString (encode (afterQuote key)) := fun rest =>
    skipString_of_readStringFrom (readString_written key)
  have hm := memberText_append (key, gap ++ text) []
  rw [List.append_nil, List.append_nil] at hm
  exact hm ▸ h.keyed hk isGap_nil hg

theorem skipFrom_inside_gap (hg : IsGap gap) (fuel : Nat) (w : Bytes) :
    skipFrom fuel (.inside true) (top :: stack) (gap ++ w) = skipFrom fuel (.inside true) (top :: stack) w := by
  cases fuel
  case zero => rfl
  case succ => rw [skipFrom_inside, skipFrom_inside, hg.skipBlanks_append]

theorem IsEntry.spaced (h : IsEntry top text) (hg : IsGap gap) (hc : IsGap close) :
    IsEntry top (gap ++ (text ++ close)) where
  opens := by
    have ⟨b, bs, hw, hb⟩ := h.opens
    refine ⟨b, bs ++ close, fun w => ?_, hb⟩
    rw [List.append_assoc, hg.skipBlanks_append, List.append_assoc, hw, List.append_assoc]
  passed := by
    have ⟨n, hn, hp⟩ := h.passed
    refine ⟨n, by simp only [List.length_append]; omega, fun fuel stack before rest hb hr => ?_⟩
    have hw : before ++ (gap ++ (text ++ close) ++ rest) = before ++ gap ++ (text ++ (close ++ rest)) := by
      simp only [List.append_assoc]
    rw [hw, hp _ _ _ _ (List.forall_mem_append.mpr ⟨hb, hg⟩) (hc.endsNumber hr), skipFrom_inside_gap hc]

theorem closing_iff {b : UInt8} :
    b = 0x5D ∧ top = .list ∨ b = 0x7D ∧ top = .object ↔ b = top.closing := by
  cases top <;> simp [Bracket.closing]

theorem skipFrom_closing (hc : IsGap close) (comma : Bool) :
    skipFrom (fuel + 1) (.inside comma) (top :: stack) (close ++ top.closing :: rest) = skipOn fuel stack rest := by
  have hb : isBlankByte top.closing = false := by cases top <;> rfl
  rw [skipFrom_inside, hc.skipBlanks_cons hb]
  simp only [closing_iff, if_true]

theorem skipFrom_first (hg : IsGap gap) (h : IsEntry top text) (w : Bytes) :
    skipFrom (fuel + 1) (.inside false) (top :: stack) (gap ++ (text ++ w)) =
      skipEntry fuel top stack (text ++ w) := by
  have ⟨b, bs, he, hn⟩ := h.opens
  rw [skipFrom_inside, hg.skipBlanks_append, ← skipEntry_blanks fuel top stack (text ++ w), he]
  simp only [closing_iff, if_neg hn]
  rfl

theorem skipFrom_comma (w : Bytes) :
    skipFrom (fuel + 1) (.inside true) (top :: stack) (0x2C :: w) = skipEntry fuel top stack w := by
  have hn : (0x2C : UInt8) ≠ top.closing := by cases top <;> decide
  rw [skipFrom_inside, skipBlanks_cons rfl]
  simp only [closing_iff, if_neg hn]
  rfl

variable {α : Type} {entry : α → Bytes}

theorem endsNumber_closing (top : Bracket) (rest : Bytes) : EndsNumber (top.closing :: rest) := by
  cases top
  case list => exact endsNumber_listEnd rest
  case object => exact endsNumber_objectEnd rest

-- By induction on the entries; each takes one step to reach and its own steps to pass.
theorem skipFrom_entries (hg : IsGap gap) (hc : IsGap close) {xs : List α}
    (h : ∀ x ∈ xs, IsEntry top (entry x)) :
    ∃ n ≤ 2 * (entries gap entry xs).length + 1, ∀ fuel stack rest,
      skipFrom (fuel + n) (.inside true) (top :: stack) (entries gap entry xs ++ (close ++ top.closing :: rest)) =
        skipOn fuel stack rest := by
  induction xs
  case nil => exact ⟨1, by omega, fun fuel stack rest => skipFrom_closing hc true⟩
  case cons x xs hi =>
    have ⟨k, hk, hx⟩ := (h x List.mem_cons_self).passed
    have ⟨n, hn, hs⟩ := hi fun y hy => h y <| List.mem_cons_of_mem x hy
    have hl : (entries gap entry (x :: xs)).length =
        1 + gap.length + (entry x).length + (entries gap entry xs).length := by
      simp only [entries, List.flatMap_cons, List.length_append, List.length_cons]
      omega
    refine ⟨n + k + 1, by omega, fun fuel stack rest => ?_⟩
    have hw : entries gap entry (x :: xs) ++ (close ++ top.closing :: rest) =
        0x2C :: (gap ++ (entry x ++ (entries gap entry xs ++ (close ++ top.closing :: rest)))) := by
      simp only [entries, List.flatMap_cons, List.cons_append, List.append_assoc]
    have hr := endsNumber_entries gap entry (hc.endsNumber (endsNumber_closing top rest)) xs
    rw [hw, ← Nat.add_assoc, skipFrom_comma, ← Nat.add_assoc, hx _ _ _ _ hg hr, hs]

-- A bracket with entries in it, of either kind.
def bracketed (top : Bracket) (row close : Bytes) : Bytes :=
  top.opening :: (row ++ (close ++ [top.closing]))

theorem bracketed_append (top : Bracket) (row close after : Bytes) :
    bracketed top row close ++ after = top.opening :: (row ++ (close ++ top.closing :: after)) := by
  simp only [bracketed, List.cons_append, List.append_assoc, List.nil_append]

theorem skipFrom_opening (top : Bracket) (w : Bytes) :
    skipFrom (fuel + 1) .value stack (top.opening :: w) = skipFrom fuel (.inside false) (top :: stack) w := by
  cases top <;> rfl

theorem isValue_bracketed (hg : IsGap gap) (hc : IsGap close) {xs : List α}
    (h : ∀ x ∈ xs, IsEntry top (entry x)) : IsValue (bracketed top (row gap entry xs) close) where
  opens := by cases top <;> exact ⟨_, _, rfl, by decide, by decide⟩
  passed := by
    cases xs
    case nil =>
      refine ⟨2, by simp only [bracketed, row, List.length_cons, List.length_append]; omega, ?_⟩
      intro fuel stack rest _
      have hw : bracketed top [] close ++ rest = top.opening :: (close ++ top.closing :: rest) := by
        simp only [bracketed, List.nil_append, List.cons_append, List.append_assoc]
      rw [row, hw, skipFrom_opening, skipFrom_closing hc]
    case cons x xs =>
      have he := h x List.mem_cons_self
      obtain ⟨k, hk, hx⟩ := he.passed
      obtain ⟨n, hn, hs⟩ := skipFrom_entries hg hc fun y hy => h y <| List.mem_cons_of_mem x hy
      have hl : (bracketed top (row gap entry (x :: xs)) close).length =
          2 + gap.length + (entry x).length + (entries gap entry xs).length + close.length := by
        simp only [bracketed, row, List.length_cons, List.length_append, List.length_nil]
        omega
      refine ⟨n + k + 2, by omega, fun fuel stack rest _ => ?_⟩
      have hw : bracketed top (row gap entry (x :: xs)) close ++ rest =
          top.opening :: (gap ++ (entry x ++ (entries gap entry xs ++ (close ++ top.closing :: rest)))) := by
        simp only [bracketed, row, List.nil_append, List.cons_append, List.append_assoc]
      have hr := endsNumber_entries gap entry (hc.endsNumber (endsNumber_closing top rest)) xs
      have hp := hx (fuel + n) stack [] _ isGap_nil hr
      rw [List.nil_append] at hp
      rw [hw, ← Nat.add_assoc, skipFrom_opening, skipFrom_first hg he, ← Nat.add_assoc, hp, hs]

end Values

end AccessControl.Json
