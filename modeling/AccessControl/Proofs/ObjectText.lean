import AccessControl.Proofs.Assigned
import Mathlib.Data.List.Nodup

namespace AccessControl

open Json Utf8

-- A member whose key spells a name.
structure NamedMember extends Member where
  name : String
  named : SpellsText key name
  valued : ValueText item.value

def NamedMember.value (m : NamedMember) : Bytes :=
  m.item.value

def NamedMember.text (m : NamedMember) : Bytes :=
  m.toMember.text

-- A text that is one object.
structure ObjectText where
  before : Bytes
  members : List NamedMember
  close : Bytes
  after : Bytes
  blank₁ : IsGap before
  blank₂ : IsGap close
  blank₃ : IsGap after

namespace ObjectText

def text (o : ObjectText) : Bytes :=
  o.before ++ (bracketed .object (row [] NamedMember.text o.members) o.close ++ o.after)

theorem skipBlanks_text (o : ObjectText) :
    skipBlanks o.text = 0x7B :: (row [] NamedMember.text o.members ++ (o.close ++ 0x7D :: o.after)) := by
  rw [text, bracketed_append, Bracket.opening, o.blank₁.skipBlanks_cons rfl]
  rfl

theorem text_ne {content w : Bytes} {b : UInt8} (hc : skipBlanks content = b :: w) (hb : b ≠ 0x7B) (o : ObjectText) :
    o.text ≠ content := by
  intro ho
  rw [← ho, skipBlanks_text] at hc
  exact hb (List.cons.inj hc).left.symm

-- Such a text is a value of the grammar, but for the blanks around it.
theorem valueText (o : ObjectText) : ValueText (bracketed .object (row [] NamedMember.text o.members) o.close) := by
  have hm : ∀ e ∈ o.members.map NamedMember.text, EntryText .object e := by
    intro e he
    obtain ⟨m, _, rfl⟩ := List.mem_map.mp he
    exact .member m.toMember m.named.stringText m.valued
  have hv := IsPart.bracket o.blank₂ hm
  rwa [row_map, Function.id_comp] at hv

def names (o : ObjectText) : List String :=
  o.members.map (·.name)

end ObjectText

-- The settings among the members, each with the text of its value.
def recognised (ms : List NamedMember) : List (SettingKey × Bytes) :=
  ms.filterMap fun m => (SettingKey.ofName? m.name).map (·, m.value)

def ObjectText.settings (o : ObjectText) : List (SettingKey × Bytes) :=
  recognised o.members

namespace Settings

section Members

variable {s s' : Settings} {key : SettingKey} {seen : List SettingKey} {length fuel : Nat} {first : Bool}
  {m : NamedMember} {ms : List NamedMember} {g close rest r w : Bytes}

theorem recognised_other (h : SettingKey.ofName? m.name = none) : recognised (m :: ms) = recognised ms := by
  simp [recognised, h]

theorem recognised_setting (h : SettingKey.ofName? m.name = some key) :
    recognised (m :: ms) = (key, m.value) :: recognised ms := by
  simp [recognised, h]

theorem text_append (m : NamedMember) (w : Bytes) :
    m.text ++ w = m.before ++ 0x22 :: (m.key ++ (m.middle ++ 0x3A :: (m.item.text ++ w))) := by
  simp [NamedMember.text, Member.text]

theorem readNamed_other (h : SettingKey.ofName? m.name = none) (hl : m.value.length ≤ length) (hr : EndsNumber rest) :
    readNamed length seen fuel s m.name (m.middle ++ 0x3A :: (m.item.text ++ rest)) =
      readMembers length seen false s fuel (m.item.after ++ rest) := by
  have hw : m.item.text ++ rest = m.item.before ++ (m.value ++ (m.item.after ++ rest)) := by
    simp [Spaced.text, NamedMember.value]
  have hs := m.valued.skipValue_append m.item.blank₁ (m.item.blank₂.endsNumber hr) hl
  rw [readNamed, h, readMember, readColon_append m.blank₂, hw]
  simp only [NamedMember.value, hs]
  rfl

theorem readNamed_setting (h : SettingKey.ofName? m.name = some key) (hr : EndsNumber rest) :
    readNamed length seen fuel s m.name (m.middle ++ 0x3A :: (m.item.text ++ rest)) = .ok (s', r) ↔
      key ∉ seen ∧ ∃ v, key.kind.Gives m.value v ∧
        readMembers length (key :: seen) false (s.set key v) fuel (m.item.after ++ rest) = .ok (s', r) := by
  have hw : m.item.text ++ rest = m.item.before ++ (m.value ++ (m.item.after ++ rest)) := by
    simp [Spaced.text, NamedMember.value]
  have hseen : (Option.any (seen.contains ·) (some key) = true) ↔ key ∈ seen := by simp
  rw [readNamed, h, readMember, readColon_append m.blank₂, hw]
  simp only [hseen]
  split_ifs with hk
  · simp [hk]
  · refine (readSetting_bind m.valued m.item.blank₁ (m.item.blank₂.endsNumber hr)).trans ?_
    simp [hk, NamedMember.value]

-- One member, however far the one before it has been read.
theorem readMembers_cons {q : Bytes} (hl : m.value.length ≤ length) (hr : EndsNumber rest)
    (hn : nextKey first w = .ok (.entry (m.key ++ (m.middle ++ 0x3A :: (m.item.text ++ rest)))))
    (hi : ∀ seen s, readMembers length seen false s fuel (m.item.after ++ rest) = .ok (s', r) ↔
      r = q ∧ Assigns seen s (recognised ms) s') :
    readMembers length seen first s (fuel + 1) w = .ok (s', r) ↔
      r = q ∧ Assigns seen s (recognised (m :: ms)) s' := by
  rw [readMembers_eq, hn]
  simp only [Except.bind, readString_spelled m.named]
  cases hk : SettingKey.ofName? m.name
  case none => rw [readNamed_other hk hl hr, hi, recognised_other hk]
  case some key =>
    rw [readNamed_setting hk hr, recognised_setting hk]
    simp only [hi]
    constructor
    case mp =>
      intro ⟨hs, v, hv, hq, h⟩
      exact ⟨hq, .cons hs hv h⟩
    case mpr =>
      intro ⟨hq, h⟩
      cases h
      case cons hs hv h => exact ⟨hs, _, hv, hq, h⟩

theorem readMembers_stop (hn : nextKey first w = .ok (.stop rest)) :
    readMembers length seen first s (fuel + 1) w = .ok (s', r) ↔ r = rest ∧ Assigns seen s (recognised []) s' := by
  rw [readMembers_eq, hn, recognised, List.filterMap_nil, assigns_nil_iff]
  simp [Except.bind, eq_comm, and_comm]

theorem nextKey_member_comma (hg : IsGap g) (m : NamedMember) (w : Bytes) :
    nextKey false (g ++ 0x2C :: (m.text ++ w)) =
      .ok (.entry (m.key ++ (m.middle ++ 0x3A :: (m.item.text ++ w)))) := by
  rw [nextKey_gap hg, text_append, nextKey_comma m.blank₁]

theorem endsNumber_members (hc : IsGap close) (ms : List NamedMember) (rest : Bytes) :
    EndsNumber (entries [] NamedMember.text ms ++ (close ++ 0x7D :: rest)) :=
  endsNumber_entries [] NamedMember.text (hc.endsNumber (endsNumber_objectEnd rest)) ms

-- The members after the first one, by induction on them.
theorem readMembers_entries (hg : IsGap g) (hc : IsGap close) (hf : ms.length < fuel)
    (hl : ∀ m ∈ ms, m.value.length ≤ length) :
    readMembers length seen false s fuel (g ++ (entries [] NamedMember.text ms ++ (close ++ 0x7D :: rest))) =
      .ok (s', r) ↔ r = rest ∧ Assigns seen s (recognised ms) s' := by
  induction ms generalizing g fuel seen s
  case nil =>
    have ⟨fuel, hn⟩ := Nat.exists_eq_succ_of_ne_zero (Nat.ne_of_gt hf)
    have he : nextKey false (g ++ ([] ++ (close ++ 0x7D :: rest))) = .ok (.stop rest) := by
      rw [nextKey_gap hg, List.nil_append, nextKey_end hc]
    exact hn ▸ readMembers_stop he
  case cons m ms hi =>
    have ⟨fuel, hn⟩ := Nat.exists_eq_succ_of_ne_zero (Nat.ne_of_gt <| Nat.zero_lt_of_lt hf)
    have ⟨hm, hl⟩ := List.forall_mem_cons.mp hl
    have hw : entries [] NamedMember.text (m :: ms) ++ (close ++ 0x7D :: rest) =
        0x2C :: (m.text ++ (entries [] NamedMember.text ms ++ (close ++ 0x7D :: rest))) := by
      simp only [entries, List.flatMap_cons, List.cons_append, List.append_assoc, List.nil_append]
    rw [hn, hw]
    refine readMembers_cons hm (endsNumber_members hc ms rest) (nextKey_member_comma hg m _) fun seen s => ?_
    exact hi m.item.blank₂ (by simp only [List.length_cons] at hf; omega) hl

theorem readMembers_row (hc : IsGap close) (hf : ms.length < fuel) (hl : ∀ m ∈ ms, m.value.length ≤ length) :
    readMembers length seen true s fuel (row [] NamedMember.text ms ++ (close ++ 0x7D :: rest)) = .ok (s', r) ↔
      r = rest ∧ Assigns seen s (recognised ms) s' := by
  have ⟨fuel, hn⟩ := Nat.exists_eq_succ_of_ne_zero (Nat.ne_of_gt <| Nat.zero_lt_of_lt hf)
  cases ms
  case nil =>
    exact hn ▸ readMembers_stop (nextKey_end hc true)
  case cons m ms =>
    have ⟨hm, hl⟩ := List.forall_mem_cons.mp hl
    have hw : row [] NamedMember.text (m :: ms) ++ (close ++ 0x7D :: rest) =
        m.text ++ (entries [] NamedMember.text ms ++ (close ++ 0x7D :: rest)) := by
      simp only [row, List.append_assoc, List.nil_append]
    have hk : nextKey true (m.text ++ (entries [] NamedMember.text ms ++ (close ++ 0x7D :: rest))) = _ :=
      (text_append m _).symm ▸ nextKey_first m.blank₁
    rw [hn, hw]
    refine readMembers_cons hm (endsNumber_members hc ms rest) hk fun seen s => ?_
    exact readMembers_entries m.item.blank₂ hc (by simp only [List.length_cons] at hf; omega) hl

end Members

section Object

variable (o : ObjectText) {s : Settings}

theorem length_value_le (m : NamedMember) : m.value.length ≤ m.text.length := by
  simp only [NamedMember.value, NamedMember.text, Member.text, Spaced.text, List.length_append, List.length_cons]
  omega

theorem ofText_object_eq_ok_iff : ofText o.text = .ok s ↔ Assigns [] {} o.settings s := by
  have hlen : (row [] NamedMember.text o.members).length ≤ o.text.length := by
    simp only [ObjectText.text, bracketed, List.length_append, List.length_cons]
    omega
  have hn : o.members.length ≤ (row [] NamedMember.text o.members).length := length_le_row [] _ fun m _ => by
    rw [← List.append_nil m.text, text_append]
    simp
  have hl : ∀ m ∈ o.members, m.value.length ≤ o.text.length := fun m hm =>
    Nat.le_trans (length_value_le m) <| Nat.le_trans (length_entry_le_row [] _ hm) hlen
  rw [ofText_eq_ok_iff, readFront, o.skipBlanks_text]
  simp only [if_pos]
  simp only [readMembers_row o.blank₂ (show o.members.length < o.text.length + 1 by omega) hl]
  simp [o.blank₃, ObjectText.settings]

theorem mem_recognised {ms : List NamedMember} {p : SettingKey × Bytes} :
    p ∈ recognised ms ↔ ∃ m ∈ ms, m.name = p.1.name ∧ m.value = p.2 := by
  rw [recognised, List.mem_filterMap]
  refine exists_congr fun m => and_congr_right fun _ => ?_
  rw [Option.map_eq_some_iff]
  constructor
  case mp =>
    rintro ⟨key, hk, rfl⟩
    exact ⟨SettingKey.ofName?_eq_some_iff.mp hk, rfl⟩
  case mpr =>
    intro ⟨hn, hv⟩
    exact ⟨p.1, SettingKey.ofName?_eq_some_iff.mpr hn, by rw [hv]⟩

theorem count_recognised (key : SettingKey) (ms : List NamedMember) :
    ((recognised ms).map Prod.fst).count key = (ms.map (·.name)).count key.name := by
  induction ms
  case nil => rfl
  case cons m ms hi =>
    rw [List.map_cons, List.count_cons, ← hi]
    cases hk : SettingKey.ofName? m.name
    case none =>
      have hn : m.name ≠ key.name := fun hn => by
        rw [SettingKey.ofName?_eq_some_iff.mpr hn] at hk
        contradiction
      rw [recognised_other hk]
      simp [hn]
    case some k =>
      have hn : m.name = k.name := SettingKey.ofName?_eq_some_iff.mp hk
      have he : k.name = key.name ↔ k = key := by
        refine ⟨fun he => ?_, fun he => by rw [he]⟩
        rw [hn, he, SettingKey.ofName?_name] at hk
        exact (Option.some.inj hk).symm
      rw [recognised_setting hk, List.map_cons, List.count_cons, hn]
      simp [he]

theorem once_settings_iff : Once [] o.settings ↔ ∀ key : SettingKey, o.names.count key.name ≤ 1 := by
  have hn : Once [] o.settings ↔ (o.settings.map Prod.fst).Nodup :=
    ⟨fun h => h.nodup, fun h => ⟨h, fun _ _ => List.not_mem_nil⟩⟩
  rw [hn, List.nodup_iff_count_le_one]
  exact forall_congr' fun key => by rw [ObjectText.settings, count_recognised, ObjectText.names]

theorem given_settings_iff {P : (key : SettingKey) → Bytes → Prop} :
    (∀ p ∈ o.settings, P p.1 p.2) ↔ ∀ key : SettingKey, ∀ m ∈ o.members, m.name = key.name → P key m.value := by
  constructor
  case mp => exact fun h key m hm hn => h (key, m.value) (mem_recognised.mpr ⟨m, hm, hn, rfl⟩)
  case mpr =>
    intro h p hp
    have ⟨m, hm, hn, hv⟩ := mem_recognised.mp hp
    exact hv ▸ h p.1 m hm hn

theorem not_mem_settings (key : SettingKey) (h : ∀ m ∈ o.members, m.name ≠ key.name) :
    key ∉ o.settings.map Prod.fst := by
  intro hk
  have ⟨p, hp, he⟩ := List.mem_map.mp hk
  have ⟨m, hm, hn, _⟩ := mem_recognised.mp hp
  exact h m hm (he ▸ hn)

theorem assigns_perm {ps qs : List (SettingKey × Bytes)} (h : ps.Perm qs) (ha : Assigns [] {} ps s) :
    Assigns [] {} qs s := by
  have ⟨ho, hf⟩ := assigns_iff.mp ha
  have hk := h.map Prod.fst
  refine assigns_iff.mpr ⟨⟨hk.nodup_iff.mp ho.nodup, ?_⟩, ⟨?_, ?_⟩⟩
  · exact fun _ _ => List.not_mem_nil
  · exact fun p hp => hf.given p (h.mem_iff.mpr hp)
  · exact fun key hm => hf.kept key fun hq => hm (hk.mem_iff.mp hq)

theorem ofText_object :
    ((∃ s, ofText o.text = .ok s) ↔
      (∀ key : SettingKey, o.names.count key.name ≤ 1) ∧
        ∀ key : SettingKey, ∀ m ∈ o.members, m.name = key.name → ∃ v, key.kind.Gives m.value v) ∧
    (∀ s, ofText o.text = .ok s → ∀ key : SettingKey,
      (∀ m ∈ o.members, m.name = key.name → ∀ v, key.kind.Gives m.value v ↔ s.get key = v) ∧
        ((∀ m ∈ o.members, m.name ≠ key.name) → s.get key = none)) ∧
    ∀ o' : ObjectText, o'.settings.Perm o.settings → ∀ s, ofText o'.text = .ok s ↔ ofText o.text = .ok s := by
  refine ⟨?accepts, ?fields, ?order⟩
  case accepts =>
    simp only [ofText_object_eq_ok_iff]
    rw [exists_assigns_iff, once_settings_iff,
      given_settings_iff o (P := fun key w => ∃ v, key.kind.Gives w v)]
  case fields =>
    intro s h key
    have hf := ((ofText_object_eq_ok_iff o).mp h).fills
    refine ⟨fun m hm hn v => ?_, fun hn => ?_⟩
    · have hg := (given_settings_iff o (P := fun key w => key.kind.Gives w (s.get key))).mp hf.given key m hm hn
      refine ⟨fun hv => ?_, fun hv => hv ▸ hg⟩
      exact (Kind.reads_optional key.reads_item).functional hg hv
    · rw [hf.kept key (not_mem_settings o key hn), get_empty]
  case order =>
    intro o' hp s
    rw [ofText_object_eq_ok_iff, ofText_object_eq_ok_iff]
    exact ⟨assigns_perm hp, assigns_perm hp.symm⟩

-- A key in another spelling with a value at the end of its range, and beside it a member that is passed over.
theorem ofText_object_spelled :
    ∃ o o' : ObjectText,
      o.text = encodeString "\x7b \"retry\\u005fcount\" :4294967295,\"pam\":[\x7b\"x\":\"\\ud800\"\x7d]\x7d" ∧
      o'.text = encodeString "\x7b\"retry_count\":4294967295\x7d" ∧ o'.settings.Perm o.settings ∧
      ∃ s, ofText o.text = .ok s ∧ s.get .retryCount = some (4294967295 : Nat) ∧ s.get .tenant = none ∧
        ofText o'.text = .ok s := by
  let alone (w : Bytes) : Spaced := ⟨[], w, [], isGap_nil, isGap_nil⟩
  let count : Spaced := alone (encodeString "4294967295")
  let spelled : NamedMember :=
    ⟨⟨[0x20], encodeString "retry\\u005fcount\"", [0x20], count, by decide, by decide⟩, "retry_count",
      by decide +kernel, by decide +kernel⟩
  let plain : NamedMember :=
    ⟨⟨[], encodeString "retry_count\"", [], count, isGap_nil, isGap_nil⟩, "retry_count",
      by decide +kernel, by decide +kernel⟩
  let other : NamedMember :=
    ⟨⟨[], encodeString "pam\"", [], alone (encodeString "[\x7b\"x\":\"\\ud800\"\x7d]"), isGap_nil, isGap_nil⟩,
      "pam", by decide +kernel, by decide +kernel⟩
  let o : ObjectText := ⟨[], [spelled, other], [], [], isGap_nil, isGap_nil, isGap_nil⟩
  let o' : ObjectText := ⟨[], [plain], [], [], isGap_nil, isGap_nil, isGap_nil⟩
  have hp : o'.settings.Perm o.settings := by decide +kernel
  have hg : SettingKey.retryCount.kind.Gives count.value (some (4294967295 : Nat)) := ⟨by decide +kernel, by decide⟩
  have ⟨accepts, fields, order⟩ := ofText_object o
  have once : ∀ key : SettingKey, o.names.count key.name ≤ 1 := by
    intro key
    cases key <;> decide +kernel
  have given : ∀ key : SettingKey, ∀ m ∈ o.members, m.name = key.name → ∃ v, key.kind.Gives m.value v := by
    intro key m hm hn
    rcases List.mem_pair.mp hm with rfl | rfl
    · cases key
      case retryCount => exact ⟨_, hg⟩
      all_goals exact absurd hn (by decide +kernel)
    · cases key <;> exact absurd hn (by decide +kernel)
  have ⟨s, hs⟩ := accepts.mpr ⟨once, given⟩
  refine ⟨o, o', by decide +kernel, by decide +kernel, hp, s, hs, ?_, ?_, (order o' hp s).mpr hs⟩
  · exact ((fields s hs .retryCount).left spelled List.mem_cons_self rfl _).mp hg
  · exact (fields s hs .tenant).right (by decide +kernel)

end Object

end Settings

end AccessControl
