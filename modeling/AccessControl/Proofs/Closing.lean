import AccessControl.Json.Skip

namespace AccessControl.Json

-- What follows the quote that closes a string, seen from inside of it.
def afterClosing : Bytes → Option Bytes
  | [] => none
  | b :: rest =>
    if b = 0x22 then some rest
    else if b = 0x5C then
      match rest with
      | [] => none
      | _ :: rest => afterClosing rest
    else afterClosing rest

section

variable {b : UInt8} {rest : Bytes}

@[simp]
theorem afterClosing_nil : afterClosing [] = none := rfl

@[simp]
theorem afterClosing_quote : afterClosing (0x22 :: rest) = some rest := by
  rw [afterClosing.eq_def]
  rfl

@[simp]
theorem afterClosing_backslash : afterClosing [0x5C] = none := rfl

@[simp]
theorem afterClosing_escape : afterClosing (0x5C :: b :: rest) = afterClosing rest := by
  rw [afterClosing.eq_def]
  rfl

theorem afterClosing_other (hq : b ≠ 0x22) (hb : b ≠ 0x5C) :
    afterClosing (b :: rest) = afterClosing rest := by
  rw [afterClosing.eq_def]
  simp [hq, hb]

theorem afterClosing_hexByte {n : Nat} (h : Text.hexByte? b = some n) :
    afterClosing (b :: rest) = afterClosing rest := by
  refine afterClosing_other ?_ ?_ <;> intro hb <;> subst hb <;> contradiction

theorem afterClosing_hex4 {a b c d : UInt8} (h : (hex4? a b c d).isSome = true) :
    afterClosing (a :: b :: c :: d :: rest) = afterClosing rest := by
  simp only [hex4?, List.mapM_cons, List.mapM_nil] at h
  cases ha : Text.hexByte? a <;> cases hb : Text.hexByte? b <;> cases hc : Text.hexByte? c <;>
    cases hd : Text.hexByte? d <;> simp [ha, hb, hc, hd] at h
  rw [afterClosing_hexByte ha, afterClosing_hexByte hb, afterClosing_hexByte hc, afterClosing_hexByte hd]

end

theorem length_lt_of_afterClosing {w r : Bytes} (h : afterClosing w = some r) : r.length < w.length := by
  fun_induction afterClosing w
  case case1 => contradiction
  case case2 =>
    cases h
    exact Nat.lt_succ_self _
  case case3 => contradiction
  case case4 hi =>
    have hl := hi h
    simp only [List.length_cons]
    omega
  case case5 hi =>
    have hl := hi h
    simp only [List.length_cons]
    omega

theorem afterClosing_append {w r : Bytes} (q : Bytes) (h : afterClosing w = some r) :
    afterClosing (w ++ q) = some (r ++ q) := by
  fun_induction afterClosing w
  case case1 => contradiction
  case case2 =>
    cases h
    exact afterClosing_quote
  case case3 => contradiction
  case case4 hi => exact afterClosing_escape.trans (hi h)
  case case5 hq hb hi => exact (afterClosing_other hq hb).trans (hi h)

-- A reader of four digits met the end of the bytes.
theorem length_lt_of_short {w : Bytes}
    (h : ∀ (a b c d : UInt8) (rest : Bytes), w = a :: b :: c :: d :: rest → False) : w.length < 4 := by
  match w with
  | [] | [_] | [_, _] | [_, _, _] => simp
  | a :: b :: c :: d :: rest => exact (h a b c d rest rfl).elim

section Read

variable {acc w r : Bytes} {v : String}

theorem readStringFrom_append (q : Bytes) (h : readStringFrom acc w ≠ .error .eofString) :
    readStringFrom acc (w ++ q) = (readStringFrom acc w).map fun (v, r) => (v, r ++ q) := by
  fun_induction readStringFrom acc w
  case case1 | case3 | case6 | case8 | case13 | case15 => exact absurd rfl h
  case case2 acc rest =>
    have hq : readStringFrom acc (0x22 :: rest ++ q) = closeString acc (rest ++ q) := by
      rw [List.cons_append, readStringFrom.eq_def]
      rfl
    rw [hq, closeString, closeString]
    cases Utf8.decodeString? acc.reverse <;> rfl
  case case19 acc b rest hq hb hc hi =>
    rw [← hi h, List.cons_append, readStringFrom.eq_def]
    simp [hq, hb, hc]
  case case18 acc b rest hq hb hc =>
    rw [List.cons_append, readStringFrom.eq_def]
    simp only [if_neg hq, if_neg hb, if_pos hc]
    rfl
  case case11 | case14 | case16 =>
    rw [readStringFrom.eq_def]
    simp_all
  all_goals
    rw [readStringFrom.eq_def]
    simp_all
    rfl

theorem readString_append (q : Bytes) (h : readString w = .ok (v, r)) :
    readString (w ++ q) = .ok (v, r ++ q) := by
  have he : readString w ≠ .error .eofString := h ▸ nofun
  rw [readString, readStringFrom_append q he, ← readString, h]
  rfl

theorem afterClosing_of_readStringFrom (h : readStringFrom acc w = .ok (v, r)) :
    afterClosing w = some r := by
  fun_induction readStringFrom acc w
  case case2 acc rest =>
    rw [closeString] at h
    split at h
    case h_1 =>
      cases h
      exact afterClosing_quote
    case h_2 => contradiction
  all_goals simp_all [afterClosing_hex4, afterClosing_other]

-- A string that is closed a few bytes before the end is read, or refused for a fault in it.
theorem length_lt_of_eofString (h : readStringFrom acc w = .error .eofString)
    (hr : afterClosing w = some r) : r.length < 3 := by
  fun_induction readStringFrom acc w
  case case2 acc rest =>
    rw [closeString] at h
    split at h <;> cases h
  case case13 hm _ _ _ hx _ _ hy hs _ =>
    have hl := length_lt_of_short hs
    have hm := Option.isSome_of_eq_some hm
    rw [Decidable.not_not.mp hx, Decidable.not_not.mp hy, afterClosing_escape, afterClosing_hex4 hm,
      afterClosing_escape] at hr
    have := length_lt_of_afterClosing hr
    omega
  case case15 hs _ =>
    have hl := length_lt_of_short hs
    rw [afterClosing_escape] at hr
    have := length_lt_of_afterClosing hr
    omega
  all_goals simp_all [afterClosing_hex4, afterClosing_other]

end Read

section Skip

variable {w r : Bytes}

theorem skipString_append (q : Bytes) (h : skipString w ≠ .error .eofString) :
    skipString (w ++ q) = (skipString w).map (· ++ q) := by
  fun_induction skipString w
  case case1 | case3 | case6 => exact absurd rfl h
  case case4 | case7 =>
    rw [skipString.eq_def]
    simp_all
  case case10 b rest hq hb hc hi =>
    rw [← hi h, List.cons_append, skipString.eq_def]
    simp only [if_neg hq, if_neg hb, if_neg hc]
  all_goals
    rw [skipString.eq_def]
    simp_all
    rfl

theorem skipString_append_of_ok (q : Bytes) (h : skipString w = .ok r) :
    skipString (w ++ q) = .ok (r ++ q) := by
  have he : skipString w ≠ .error .eofString := h ▸ nofun
  rw [skipString_append q he, h]
  rfl

theorem afterClosing_of_skipString (h : skipString w = .ok r) : afterClosing w = some r := by
  fun_induction skipString w
  case case2 =>
    cases h
    exact afterClosing_quote
  all_goals simp_all [afterClosing_hex4, afterClosing_other]

theorem length_lt_of_skipString_eof (h : skipString w = .error .eofString)
    (hr : afterClosing w = some r) : r.length < 3 := by
  fun_induction skipString w
  case case6 hs _ =>
    have hl := length_lt_of_short hs
    rw [afterClosing_escape] at hr
    have := length_lt_of_afterClosing hr
    omega
  all_goals simp_all [afterClosing_hex4, afterClosing_other]

theorem skipString_of_readStringFrom {acc : Bytes} {v : String} (h : readStringFrom acc w = .ok (v, r)) :
    skipString w = .ok r := by
  fun_induction readStringFrom acc w
  case case2 acc rest =>
    rw [closeString] at h
    split at h
    case h_1 =>
      cases h
      rw [skipString.eq_def]
      rfl
    case h_2 => contradiction
  -- Two escapes that name one character are passed over one after the other.
  case case11 =>
    rw [skipString.eq_def]
    simp_all
    rw [skipString.eq_def]
    simp_all
  all_goals
    rw [skipString.eq_def]
    simp_all

end Skip

end AccessControl.Json
