import AccessControl.Proofs.Volume

namespace AccessControl.Volume

variable {v w : Volume} {path name : String} {names : List String} {place q : Place} {n m : Node}
  {content bytes : Bytes} {l : Located}

-- A name of its own, neither of the two that stand for a place that is known.
structure IsOwn (name : String) : Prop where
  here : name ≠ "."
  above : name ≠ ".."
  short : ¬maxName < Utf8.length name

-- What following one name can come to.
inductive Follows (v : Volume) (q : Place) (names : List String) (l : Located) : String → Prop
  | here (h : v.walk q names = .ok l) : Follows v q names l "."
  | above (h : v.walk q.dropLast names = .ok l) : Follows v q names l ".."
  | into {name : String} (hn : IsOwn name) (hs : (v.node? (q ++ [name])).isSome = true)
      (h : v.walk (q ++ [name]) names = .ok l) : Follows v q names l name
  | missing {name : String} (hl : names = []) (hn : IsOwn name) (hs : v.node? (q ++ [name]) = none)
      (h : l = .absent (q ++ [name])) : Follows v q names l name

theorem follows_of_walk (h : v.walk q (name :: names) = .ok l) :
    v.node? q = some .directory ∧ v.Follows q names l name := by
  unfold walk at h
  split at h
  case h_1 hd =>
    refine ⟨hd, ?_⟩
    split at h
    case isTrue hn => exact hn ▸ .here h
    case isFalse hn =>
      split at h
      case isTrue hp => exact hp ▸ .above h
      case isFalse hp =>
        split at h
        case isTrue => contradiction
        case isFalse hl =>
          have ho : IsOwn name := { here := hn, above := hp, short := hl }
          dsimp only at h
          split at h
          case isTrue hs => exact .into ho hs h
          case isFalse hs =>
            split at h
            case isTrue he =>
              exact .missing (List.isEmpty_iff.mp he) ho (by simpa using hs) (Except.ok.inj h).symm
            case isFalse => contradiction
  all_goals contradiction

theorem walk_into (hd : v.node? q = some .directory) (hn : IsOwn name)
    (hs : (v.node? (q ++ [name])).isSome = true) : v.walk q (name :: names) = v.walk (q ++ [name]) names := by
  rw [walk, hd]
  simp only [if_neg hn.here, if_neg hn.above, if_neg hn.short, if_pos hs]

theorem node?_of_walk_present (h : v.walk q names = .ok (.present place n)) : v.node? place = some n := by
  induction names generalizing q
  case nil =>
    unfold walk at h
    cases hq : v.node? q <;> simp only [hq] at h <;> cases h
    exact hq
  case cons name names hi =>
    obtain ⟨-, hf⟩ := follows_of_walk h
    clear h
    cases hf
    case here h => exact hi h
    case above h => exact hi h
    case into _ _ h => exact hi h
    case missing _ _ _ h => contradiction

-- A place that holds something is the root, or leads to an entry.
theorem leads_of_node? (h : v.node? place = some n) : place = [] ∨ ∃ e ∈ v.entries, place <+: e.1 := by
  unfold node? at h
  cases hl : v.entries.lookup place
  case some k =>
    have hs : (v.entries.lookup place).isSome = true := by rw [hl]; rfl
    have ⟨e, he, hp⟩ := List.lookup_isSome_iff.mp hs
    exact .inr ⟨e, he, beq_iff_eq.mp hp ▸ List.prefix_refl place⟩
  case none =>
    simp only [hl] at h
    split at h
    case isFalse => contradiction
    case isTrue hc =>
      rcases (Bool.or_eq_true _ _).mp hc with ha | he
      · have ⟨e, he, hp⟩ := List.any_eq_true.mp ha
        exact .inr ⟨e, he, List.isPrefixOf_iff_prefix.mp hp⟩
      · exact .inl <| List.isEmpty_iff.mp he

theorem isSome_node?_of_prefix (h : v.node? place = some n) (hq : q <+: place) : (v.node? q).isSome = true := by
  have ha : (v.entries.any (fun e => q.isPrefixOf e.1) || q.isEmpty) = true := by
    rcases leads_of_node? h with rfl | ⟨e, he, hp⟩
    · simp [List.prefix_nil.mp hq]
    · have hy : v.entries.any (fun e => q.isPrefixOf e.1) = true :=
        List.any_eq_true.mpr ⟨e, he, List.isPrefixOf_iff_prefix.mpr (hq.trans hp)⟩
      simp [hy]
  unfold node?
  cases v.entries.lookup q
  case some k => rfl
  case none => simp only [ha, if_true, Option.isSome_some]

-- To replace what is somewhere makes no difference to what is elsewhere.
theorem node?_put_of_present (h : v.node? place = some n) (hq : q ≠ place) :
    (v.put place m).node? q = v.node? q := by
  rw [node?_put_of_ne hq]
  cases hp : q.isPrefixOf place
  case false => cases v.node? q <;> rfl
  case true =>
    have hs := isSome_node?_of_prefix h (List.isPrefixOf_iff_prefix.mp hp)
    have ⟨k, hk⟩ := Option.isSome_iff_exists.mp hs
    rw [hk]
    rfl

-- What was there stays as something is put where nothing was.
theorem node?_put_of_absent (hn : v.node? place = none) (h : v.node? q = some m) :
    (v.put place n).node? q = some m := by
  have hq : q ≠ place := by
    rintro rfl
    rw [h] at hn
    contradiction
  rw [node?_put_of_ne hq, h]
  rfl

-- Once something is put where it was missing, the same names lead to it.
theorem walk_put_absent (h : v.walk q names = .ok (.absent place)) :
    (v.put place n).walk q names = .ok (.present place n) := by
  have hn := node?_of_walk_absent h
  induction names generalizing q
  case nil =>
    unfold walk at h
    cases hq : v.node? q <;> simp only [hq] at h <;> cases h
  case cons name names hi =>
    obtain ⟨hd, hf⟩ := follows_of_walk h
    clear h
    replace hd := node?_put_of_absent (n := n) hn hd
    cases hf
    case here h =>
      rw [walk, hd]
      exact hi h
    case above h =>
      rw [walk, hd]
      exact hi h
    case into ho hs h =>
      have ⟨k, hk⟩ := Option.isSome_iff_exists.mp hs
      rw [walk_into hd ho (by rw [node?_put_of_absent hn hk]; rfl)]
      exact hi h
    case missing hl ho _ h =>
      cases h
      rw [walk_into hd ho (by simp), hl, walk, node?_put_self]

-- What is there for one who appends to it: what is in the file, and nothing where there is no file yet.
def IsThere (v : Volume) (place : Place) (content : Bytes) : Prop :=
  v.node? place = some (.file content) ∨ v.node? place = none ∧ content = []

theorem IsThere.unique {content' : Bytes} (h : v.IsThere place content) (h' : v.IsThere place content') :
    content = content' := by
  rcases h with h | ⟨h, rfl⟩ <;> rcases h' with h' | ⟨h', rfl⟩ <;> rw [h] at h'
  case inl.inl =>
    cases h'
    rfl
  all_goals contradiction

-- The path leads to a file with this content.
structure Holds (v : Volume) (path : String) (place : Place) (content : Bytes) : Prop where
  proper : checkPath path = .ok ()
  unslashed : namesBeforeSlash? path = none
  found : v.locate path = .ok (.present place (.file content))

namespace Holds

theorem node?_eq (h : v.Holds path place content) : v.node? place = some (.file content) := by
  have hf := h.found
  rw [locate, h.proper] at hf
  exact node?_of_walk_present hf

theorem openAppend_eq (h : v.Holds path place content) : v.openAppend path = .ok (place, v) := by
  rw [openAppend_plain h.proper h.unslashed, h.found]
  rfl

theorem append_eq (h : v.Holds path place content) (bytes : Bytes) :
    v.append place bytes = v.put place (.file (content ++ bytes)) := by
  rw [Volume.append, h.node?_eq]

theorem append_elsewhere (h : v.Holds path place content) (bytes : Bytes) (hq : q ≠ place) :
    (v.append place bytes).node? q = v.node? q := by
  rw [h.append_eq, node?_put_of_present h.node?_eq hq]

theorem append (h : v.Holds path place content) (bytes : Bytes) :
    (v.append place bytes).Holds path place (content ++ bytes) where
  proper := h.proper
  unslashed := h.unslashed
  found := by
    have ha := h.append_eq bytes
    have hk : Apart place content (content ++ bytes) v (v.append place bytes) := {
      workingDirectory := by rw [ha]; rfl
      elsewhere := fun q hq => (h.append_elsewhere bytes hq).symm
      there := ⟨[], by simp [h.node?_eq], by simp [ha]⟩ }
    have hw := hk.locate_kind path
    rw [h.found] at hw
    cases hl : (v.append place bytes).locate path
    case error e => rw [hl] at hw; contradiction
    case ok located =>
      rw [hl] at hw
      rcases located with ⟨r, _ | _ | e⟩ | r <;> cases hw
      case present.file more =>
        have hm : (v.append place bytes).node? place = some (.file more) := by
          rw [locate, h.proper] at hl
          exact node?_of_walk_present hl
        rw [ha, node?_put_self] at hm
        cases hm
        rfl

-- What the file held before it was opened, it holds afterwards; one that is made holds nothing.
theorem of_openAppend (ho : v.openAppend path = .ok (place, w)) :
    ∃ content, v.IsThere place content ∧ w.Holds path place content := by
  cases hc : checkPath path
  case error e =>
    rw [openAppend_refused hc] at ho
    contradiction
  case ok =>
    cases hs : namesBeforeSlash? path
    case some above =>
      rw [openAppend_above hc hs] at ho
      cases hw : v.walk (v.start path) (above ++ ["."]) <;> rw [hw] at ho <;> contradiction
    case none =>
      rw [openAppend_plain hc hs] at ho
      have hl (u : Volume) : u.locate path = u.walk (u.start path) (names path) := by rw [locate, hc]; rfl
      cases hw : v.locate path <;> rw [hw] at ho
      case error e => contradiction
      case ok located =>
        rcases located with ⟨r, _ | _ | e⟩ | r <;> cases ho
        case present.file content =>
          have ht : v.IsThere place content := .inl <| node?_of_walk_present (hl v ▸ hw)
          exact ⟨content, ht, { proper := hc, unslashed := hs, found := hw }⟩
        case absent =>
          have ht : v.IsThere place [] := .inr ⟨node?_of_walk_absent (hl v ▸ hw), rfl⟩
          have hf := walk_put_absent (n := .file []) (hl v ▸ hw)
          exact ⟨[], ht, { proper := hc, unslashed := hs, found := by rw [hl]; exact hf }⟩

end Holds
end AccessControl.Volume
