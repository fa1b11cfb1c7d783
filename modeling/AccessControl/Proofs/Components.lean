import AccessControl.Proofs.Decoding
import Mathlib

namespace AccessControl

open String

theorem Utf8.length_encodeString (s : String) : (encodeString s).length = Utf8.length s := by
  have hl (cs : List Char) : (encode cs).length = utf8Len cs := by
    induction cs
    case nil => rfl
    case cons c cs hi => rw [encode_cons, List.length_append, length_utf8EncodeChar, hi, utf8Len_cons, Nat.add_comm]
  rw [encodeString, hl, utf8Len_toList, Utf8.length]

namespace Path

-- From the part `m` that has begun behind `l`, with the parts before it in reverse.
theorem splitOnAux_slash (l m r : List Char) (acc : List String) :
    splitOnAux (ofList (l ++ m ++ r)) "/" ⟨utf8Len l⟩ ⟨utf8Len (l ++ m)⟩ 0 acc =
      acc.reverse ++ (r.splitOnPPrepend (· == '/') m.reverse).map ofList := by
  have hm : Pos.Raw.extract (ofList (l ++ m ++ r)) ⟨utf8Len l⟩ ⟨utf8Len (l ++ m)⟩ = ofList m := by
    rw [utf8Len_append]
    exact extract_of_valid l m r
  unfold splitOnAux
  cases r
  case nil =>
    have he := (atEnd_of_valid (l ++ m) []).mpr rfl
    rw [if_pos he, hm]
    simp
  case cons c r =>
    have he := (atEnd_of_valid (l ++ m) (c :: r)).not.mpr (List.cons_ne_nil c r)
    have hc : Pos.Raw.get (ofList (l ++ m ++ c :: r)) ⟨utf8Len (l ++ m)⟩ = c := get_of_valid (l ++ m) (c :: r)
    have hn : Pos.Raw.next (ofList (l ++ m ++ c :: r)) ⟨utf8Len (l ++ m)⟩ = ⟨utf8Len (l ++ m ++ [c])⟩ := by
      rw [next_of_valid, utf8Len_append (l ++ m)]
      simp
    have hg : Pos.Raw.get "/" 0 = '/' := by decide
    rw [if_neg he, hc, hg]
    by_cases hs : c = '/'
    case pos =>
      subst hs
      have hf : Pos.Raw.atEnd "/" (Pos.Raw.next "/" 0) = true := by decide
      have hu : (Pos.Raw.mk (utf8Len (l ++ m ++ ['/']))).unoffsetBy (Pos.Raw.next "/" 0) = ⟨utf8Len (l ++ m)⟩ := by
        rw [utf8Len_append]
        rfl
      have hi := splitOnAux_slash (l ++ m ++ ['/']) [] r (ofList m :: acc)
      rw [List.append_nil, List.append_assoc _ ['/'], List.singleton_append] at hi
      rw [if_pos (beq_self_eq_true _), if_pos hf, hn, hu, hm, hi]
      simp [List.splitOnPPrepend_cons_eq_if]
    case neg =>
      have hi := splitOnAux_slash l (m ++ [c]) r acc
      rw [← List.append_assoc, List.append_assoc _ [c], List.singleton_append] at hi
      have hz : (Pos.Raw.mk (utf8Len (l ++ m))).unoffsetBy 0 = ⟨utf8Len (l ++ m)⟩ := rfl
      rw [if_neg (by simpa using hs), hz, hn, hi]
      simp [List.splitOnPPrepend_cons_eq_if, hs]

theorem splitOn_slash (path : String) : path.splitOn "/" = (path.toList.splitOn '/').map ofList := by
  have h := splitOnAux_slash [] [] path.toList []
  have hs : ("/" == "") = false := by decide
  rw [splitOn, hs]
  simpa [List.splitOn] using h

-- The parts of a list stand between separators, or at an end of it.
theorem mem_splitOn_iff {α : Type} [BEq α] [LawfulBEq α] {a : α} {cs w : List α} :
    w ∈ cs.splitOn a ↔ ∃ before after, cs = before ++ w ++ after ∧ a ∉ w ∧
      (before = [] ∨ ∃ front, before = front ++ [a]) ∧ (after = [] ∨ ∃ back, after = a :: back) := by
  constructor
  case mp =>
    intro h
    induction hl : cs.length using Nat.strongRecOn generalizing cs
    case ind n hi =>
      by_cases ha : a ∈ cs
      case neg =>
        rw [List.splitOn_eq_singleton ha, List.mem_singleton] at h
        exact ⟨[], [], by simp [h], h ▸ ha, .inl rfl, .inl rfl⟩
      case pos =>
        obtain ⟨first, rest, rfl, hf⟩ := List.eq_append_cons_of_mem ha
        rw [List.splitOn_append_cons_self_of_not_mem hf, List.mem_cons] at h
        rcases h with rfl | h
        case inl => exact ⟨[], a :: rest, by simp, hf, .inl rfl, .inr ⟨rest, rfl⟩⟩
        case inr =>
          have hr : rest.length < n := by
            rw [← hl, List.length_append, List.length_cons]
            omega
          obtain ⟨before, after, hc, hw, hb, ha⟩ := hi _ hr h rfl
          refine ⟨first ++ a :: before, after, by simp [hc], hw, .inr ?_, ha⟩
          rcases hb with rfl | ⟨front, rfl⟩
          · exact ⟨first, rfl⟩
          · exact ⟨first ++ a :: front, by simp⟩
  case mpr =>
    rintro ⟨before, after, rfl, hw, hb, ha⟩
    have hs : w ∈ (w ++ after).splitOn a := by
      rcases ha with rfl | ⟨back, rfl⟩
      · simp [List.splitOn_eq_singleton hw]
      · simp [List.splitOn_append_cons_self_of_not_mem hw]
    rcases hb with rfl | ⟨front, rfl⟩
    · exact hs
    · rw [List.append_assoc, List.append_assoc, List.singleton_append, List.splitOn_append_cons_self]
      exact List.mem_append_right _ hs

-- The text takes a place between slashes, or at an end of the path.
structure Stands (path before name after : String) : Prop where
  whole : path = before ++ name ++ after
  unslashed : '/' ∉ name.toList
  opened : before = "" ∨ ∃ front, before = front ++ "/"
  closed : after = "" ∨ ∃ back, after = "/" ++ back

inductive IsComponent (path : String) : String → Prop
  | root {rest : String} (h : path = "/" ++ rest) : IsComponent path "/"
  | name {before name after : String} (stands : Stands path before name after) (nonempty : name ≠ "")
      (dot : name = "." → before = "") : IsComponent path name

theorem mem_splitOn_slash_iff {path part : String} :
    part ∈ path.splitOn "/" ↔ ∃ before after, Stands path before part after := by
  rw [splitOn_slash, List.mem_map]
  constructor
  case mp =>
    rintro ⟨w, hw, rfl⟩
    obtain ⟨before, after, hp, hs, hb, ha⟩ := mem_splitOn_iff.mp hw
    refine ⟨ofList before, ofList after, ?_, by simpa using hs, ?_, ?_⟩
    · rw [← ofList_append, ← ofList_append, ← hp, ofList_toList]
    · rcases hb with rfl | ⟨front, rfl⟩
      · exact .inl rfl
      · exact .inr ⟨ofList front, ofList_append⟩
    · rcases ha with rfl | ⟨back, rfl⟩
      · exact .inl rfl
      · exact .inr ⟨ofList back, by rw [← List.singleton_append, ofList_append]⟩
  case mpr =>
    rintro ⟨before, after, hp, hs, hb, ha⟩
    refine ⟨part.toList, mem_splitOn_iff.mpr ⟨before.toList, after.toList, by simp [hp], hs, ?_, ?_⟩, ofList_toList⟩
    · rcases hb with rfl | ⟨front, rfl⟩
      · exact .inl rfl
      · exact .inr ⟨front.toList, by simp⟩
    · rcases ha with rfl | ⟨back, rfl⟩
      · exact .inl rfl
      · exact .inr ⟨back.toList, by simp⟩

-- What stands between slashes and is no component, and the root, are one byte at most.
theorem any_splitOn_iff {path : String} {limit : Nat} (hl : 0 < limit) :
    (path.splitOn "/").any (limit < Utf8.length ·) = true ↔
      ∃ c, IsComponent path c ∧ limit < (Utf8.encodeString c).length := by
  simp only [List.any_eq_true, decide_eq_true_eq, Utf8.length_encodeString, mem_splitOn_slash_iff]
  constructor
  case mp =>
    rintro ⟨part, ⟨before, after, hs⟩, hp⟩
    have he : part ≠ "" := by
      rintro rfl
      exact absurd hp (Nat.not_lt_zero limit)
    have hd : part ≠ "." := by
      rintro rfl
      have h1 : Utf8.length "." = 1 := by decide
      omega
    exact ⟨part, .name hs he (absurd · hd), hp⟩
  case mpr =>
    rintro ⟨c, hc, hp⟩
    cases hc
    case root =>
      have h1 : Utf8.length "/" = 1 := by decide
      omega
    case name before after hs _ _ => exact ⟨c, ⟨before, after, hs⟩, hp⟩

end Path
end AccessControl
