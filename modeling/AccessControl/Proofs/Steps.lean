import AccessControl.Proofs.Passing

namespace AccessControl.Json

section

variable {Entry : Bytes → Prop} {closing : UInt8} {first : Bool} {g q r t w : Bytes}

theorem nextItem_gap (hg : IsGap g) (first : Bool) (w : Bytes) : nextItem first (g ++ w) = nextItem first w := by
  rw [nextItem, nextItem, hg.skipBlanks_append]

theorem nextKey_gap (hg : IsGap g) (first : Bool) (w : Bytes) : nextKey first (g ++ w) = nextKey first w := by
  rw [nextKey, nextKey, hg.skipBlanks_append]

-- These bytes come next, behind a comma if one is due.
def StandsNext (first : Bool) (w t : Bytes) : Prop :=
  ∃ g, IsGap g ∧ if first then w = g ++ t else ∃ k, IsGap k ∧ w = k ++ 0x2C :: (g ++ t)

theorem StandsNext.rest (h : StandsNext first w t) (he : ∀ g, IsGap g → ∃ e, Entry e ∧ g ++ t = e ++ q)
    (hr : ∃ u, Rest Entry closing true u ∧ q = u ++ r) : ∃ u, Rest Entry closing (!first) u ∧ w = u ++ r := by
  have ⟨g, hg, hw⟩ := h
  have ⟨e, hm, hq⟩ := he g hg
  have ⟨u, hu, hr⟩ := hr
  rw [hq, hr] at hw
  cases first
  case true => exact ⟨_, .first hm hu, by simpa using hw⟩
  case false =>
    have ⟨k, hk, hw⟩ := hw
    exact ⟨_, .next hk hm hu, by simpa using hw⟩

-- The end of a bracket, or what comes next in it.
def Stands (closing : UInt8) (opening : Bytes) (first : Bool) (w : Bytes) : Next → Prop
  | .stop r => ∃ g, IsGap g ∧ w = g ++ closing :: r
  | .entry t => StandsNext first w (opening ++ t)

theorem stands_of_nextKey {next : Next} (h : nextKey first w = .ok next) : Stands 0x7D [0x22] first w next := by
  obtain ⟨g, hg, hw⟩ := exists_gap w
  rw [nextKey] at h
  cases hb : skipBlanks w <;> simp only [hb] at h
  case nil => contradiction
  case cons b v =>
    rw [hb] at hw
    split_ifs at h with hc hf hq hm
    · cases h
      exact ⟨g, hg, hc ▸ hw⟩
    · cases h
      exact ⟨g, hg, by rw [hw, hq, if_pos hf]; rfl⟩
    · obtain ⟨k, hk, hv⟩ := exists_gap v
      split at h
      case h_1 => contradiction
      case h_2 c u hu =>
        split_ifs at h with hq
        cases h
        rw [hu, hq] at hv
        refine ⟨k, hk, ?_⟩
        rw [if_neg hf]
        exact ⟨g, hg, by rw [hw, hm, hv]; rfl⟩

theorem stands_of_nextItem {next : Next} (h : nextItem first w = .ok next) : Stands 0x5D [] first w next := by
  obtain ⟨g, hg, hw⟩ := exists_gap w
  rw [nextItem] at h
  cases hb : skipBlanks w <;> simp only [hb] at h
  case nil => contradiction
  case cons b v =>
    rw [hb] at hw
    split_ifs at h with hc hf hm
    · cases h
      exact ⟨g, hg, hc ▸ hw⟩
    · cases h
      exact ⟨g, hg, by rw [hw, if_pos hf]; rfl⟩
    · obtain ⟨k, hk, hv⟩ := exists_gap v
      split at h
      case h_1 => contradiction
      case h_2 c u hu =>
        split_ifs at h with hq
        cases h
        rw [hu] at hv
        refine ⟨k, hk, ?_⟩
        rw [if_neg hf]
        exact ⟨g, hg, by rw [hw, hm, hv]; rfl⟩

theorem readEnd_eq_ok_iff : readEnd w = .ok () ↔ IsGap w := by
  have ⟨g, hg, hw⟩ := exists_gap w
  simp only [readEnd, List.isEmpty_iff]
  constructor
  case mp =>
    intro h
    split_ifs at h with hn
    rw [hw, hn, List.append_nil]
    exact hg
  case mpr =>
    intro h
    have hn : skipBlanks (w ++ []) = [] := h.skipBlanks_append []
    rw [List.append_nil] at hn
    rw [if_pos hn]

end

end AccessControl.Json
