import AccessControl.File.Volume

namespace AccessControl
namespace Volume

variable {v : Volume} {place q : Place} {n : Node}

@[simp]
theorem node?_put_self : (v.put place n).node? place = some n := by
  simp [put, node?]

theorem lookup_filter_ne (h : q ≠ place) (es : List (Place × Node)) :
    (es.filter (·.1 != place)).lookup q = es.lookup q := by
  induction es
  case nil => rfl
  case cons e es hi =>
    obtain ⟨p, m⟩ := e
    by_cases hp : p = place
    case pos =>
      subst hp
      have hq : (q == p) = false := by simpa using h
      simp [hi, List.lookup_cons, hq]
    case neg => simp [hp, hi, List.lookup_cons]

-- What a tree holds at another place than the one where a node is put: the places on the way to that
-- one are directories.
theorem node?_put_of_ne (h : q ≠ place) :
    (v.put place n).node? q = (v.node? q <|> if q.isPrefixOf place then some .directory else none) := by
  have hl : (v.put place n).entries.lookup q = v.entries.lookup q := by
    have hq : (q == place) = false := by simpa using h
    simp only [put, List.lookup_cons, hq, lookup_filter_ne h]
  have ha : (v.put place n).entries.any (fun e => q.isPrefixOf e.1) =
      (q.isPrefixOf place || v.entries.any (fun e => q.isPrefixOf e.1)) := by
    cases hp : q.isPrefixOf place
    case true => simp [put, hp]
    case false =>
      have hm (e : Place × Node) : (e.1 != place && q.isPrefixOf e.1) = q.isPrefixOf e.1 := by
        by_cases he : e.1 = place
        case pos => simp [he, hp]
        case neg => simp [he]
      simp only [put, List.any_cons, List.any_filter, hp, hm]
  unfold node?
  rw [hl, ha]
  cases v.entries.lookup q
  case some n => rfl
  case none =>
    cases hp : q.isPrefixOf place <;> cases hs : v.entries.any _ <;> cases he : q.isEmpty <;> simp

-- The trees hold the same, but for one file: that goes on in the same way, after another beginning.
structure Apart (place : Place) (begin₁ begin₂ : Bytes) (v₁ v₂ : Volume) : Prop where
  workingDirectory : v₁.workingDirectory = v₂.workingDirectory
  elsewhere : ∀ q, q ≠ place → v₁.node? q = v₂.node? q
  there : ∃ more, v₁.node? place = some (.file (begin₁ ++ more)) ∧
    v₂.node? place = some (.file (begin₂ ++ more))

end Volume

-- A node as far as following a path can tell.
def Node.kind : Node → Node
  | .file _ => .file []
  | n => n

def Volume.Located.kind : Located → Located
  | .present place n => .present place n.kind
  | .absent place => .absent place

theorem Except.map_eq_map_iff {x y : Except ε α} {f : α → β} :
    x.map f = y.map f ↔
      (∃ e, x = .error e ∧ y = .error e) ∨ ∃ a b, x = .ok a ∧ y = .ok b ∧ f a = f b := by
  cases x <;> cases y <;> simp [Except.map, eq_comm]

-- What is absent has no node.
theorem Volume.node?_of_walk_absent {v : Volume} {place q : Place} {names : List String}
    (h : v.walk place names = .ok (.absent q)) : v.node? q = none := by
  induction names generalizing place
  case nil =>
    unfold walk at h
    cases hn : v.node? place <;> simp only [hn] at h <;> cases h
  case cons name names hi =>
    unfold walk at h
    split at h
    case h_1 =>
      split at h
      case isTrue => exact hi h
      case isFalse =>
        split at h
        case isTrue => exact hi h
        case isFalse =>
          split at h
          case isTrue => contradiction
          case isFalse =>
            dsimp only at h
            split at h
            case isTrue => exact hi h
            case isFalse hn =>
              split at h
              case isTrue =>
                cases h
                simpa using hn
              case isFalse => contradiction
    all_goals contradiction

section

variable {v : Volume} {path : String}

theorem Volume.openAppend_refused {e : FileError} (hc : checkPath path = .error e) :
    v.openAppend path = .error e := by
  rw [openAppend, hc]
  rfl

-- With a slash at its end, a name is never one of a file.
theorem Volume.openAppend_above {above : List String} (hc : checkPath path = .ok ())
    (hn : namesBeforeSlash? path = some above) :
    v.openAppend path = (v.walk (v.start path) (above ++ ["."])).bind fun _ => .error .isDirectory := by
  simp only [openAppend, hc, hn]
  cases v.walk (v.start path) (above ++ ["."]) <;> rfl

theorem Volume.openAppend_plain (hc : checkPath path = .ok ()) (hn : namesBeforeSlash? path = none) :
    v.openAppend path = (v.locate path).bind fun
      | .absent q => .ok (q, v.put q (.file []))
      | .present _ .directory => .error .isDirectory
      | .present _ (.unreadable e) => .error e
      | .present q (.file _) => .ok (q, v) := by
  rw [openAppend, hc, hn]
  cases v.locate path
  case error e => rfl
  case ok located =>
    rcases located with ⟨q, _ | _ | e⟩ | q <;> rfl

end

namespace Volume.Apart

variable {place q : Place} {begin₁ begin₂ : Bytes} {v₁ v₂ : Volume}
  (h : Apart place begin₁ begin₂ v₁ v₂)

include h

theorem node?_kind (q : Place) : (v₁.node? q).map Node.kind = (v₂.node? q).map Node.kind := by
  by_cases hq : q = place
  case pos =>
    have ⟨more, h₁, h₂⟩ := h.there
    rw [hq, h₁, h₂]
    rfl
  case neg => rw [h.elsewhere q hq]

-- Following names looks at nothing but the kinds of nodes.
theorem walk_kind (q : Place) (names : List String) :
    (v₁.walk q names).map Located.kind = (v₂.walk q names).map Located.kind := by
  induction names generalizing q
  case nil =>
    have hk := h.node?_kind q
    unfold walk
    cases h₁ : v₁.node? q <;> cases h₂ : v₂.node? q <;> simp_all [Except.map, Located.kind]
  case cons name names hi =>
    have hk := h.node?_kind q
    have hs : (v₂.node? (q ++ [name])).isSome = (v₁.node? (q ++ [name])).isSome := by
      simpa using (congrArg Option.isSome (h.node?_kind (q ++ [name]))).symm
    unfold walk
    cases h₁ : v₁.node? q <;> cases h₂ : v₂.node? q <;> rw [h₁, h₂] at hk
    case some.some n₁ n₂ =>
      cases n₁ <;> cases n₂ <;> cases hk
      case directory.directory =>
        simp only [apply_ite (Except.map Located.kind), hi, hs]
      all_goals rfl
    all_goals contradiction

theorem locate_kind (path : String) :
    (v₁.locate path).map Located.kind = (v₂.locate path).map Located.kind := by
  unfold locate start
  rw [h.workingDirectory]
  cases checkPath path
  case error e => rfl
  case ok => exact h.walk_kind ..

theorem put {n : Node} (hq : q ≠ place) : Apart place begin₁ begin₂ (v₁.put q n) (v₂.put q n) where
  workingDirectory := h.workingDirectory
  elsewhere r hr := by
    by_cases hq : r = q
    case pos => simp [hq]
    case neg => rw [node?_put_of_ne hq, node?_put_of_ne hq, h.elsewhere r hr]
  there := by
    have ⟨more, h₁, h₂⟩ := h.there
    exact ⟨more, by simp [node?_put_of_ne hq.symm, h₁], by simp [node?_put_of_ne hq.symm, h₂]⟩

-- Where a file may be made, nothing is in either tree, and so not the file that tells them apart.
theorem openAppend (path : String) :
    (∃ e, v₁.openAppend path = .error e ∧ v₂.openAppend path = .error e) ∨
      ∃ q w₁ w₂, v₁.openAppend path = .ok (q, w₁) ∧ v₂.openAppend path = .ok (q, w₂) ∧
        Apart place begin₁ begin₂ w₁ w₂ := by
  cases hc : checkPath path
  case error e => exact .inl ⟨e, openAppend_refused hc, openAppend_refused hc⟩
  case ok =>
    cases hn : namesBeforeSlash? path
    case some above =>
      have hw := h.walk_kind (v₁.start path) (above ++ ["."])
      have hs : v₁.start path = v₂.start path := by rw [start, start, h.workingDirectory]
      rw [openAppend_above hc hn, openAppend_above hc hn, ← hs]
      rcases Except.map_eq_map_iff.mp hw with ⟨e, h₁, h₂⟩ | ⟨a, b, h₁, h₂, _⟩ <;> rw [h₁, h₂]
      · exact .inl ⟨e, rfl, rfl⟩
      · exact .inl ⟨.isDirectory, rfl, rfl⟩
    case none =>
      rw [openAppend_plain hc hn, openAppend_plain hc hn]
      rcases Except.map_eq_map_iff.mp (h.locate_kind path) with ⟨e, h₁, h₂⟩ | ⟨a, b, h₁, h₂, hk⟩ <;>
        rw [h₁, h₂]
      case inl => exact .inl ⟨e, rfl, rfl⟩
      case inr =>
        rcases a with ⟨q, _ | _ | e⟩ | q <;> rcases b with ⟨q', _ | _ | e'⟩ | q' <;> cases hk
        case present.file.present.file => exact .inr ⟨q, v₁, v₂, rfl, rfl, h⟩
        case present.directory.present.directory => exact .inl ⟨.isDirectory, rfl, rfl⟩
        case present.unreadable.present.unreadable => exact .inl ⟨e, rfl, rfl⟩
        case absent.absent =>
          have hq : q ≠ place := by
            intro hq
            have hl : v₁.walk (v₁.start path) (names path) = .ok (.absent q) := by
              rw [locate, hc] at h₁
              exact h₁
            have ⟨more, hf, _⟩ := h.there
            have := node?_of_walk_absent hl
            rw [hq, hf] at this
            contradiction
          exact .inr ⟨q, _, _, rfl, rfl, h.put hq⟩

theorem append (q : Place) (bytes : Bytes) :
    Apart place begin₁ begin₂ (v₁.append q bytes) (v₂.append q bytes) := by
  unfold Volume.append
  by_cases hq : q = place
  case pos =>
    subst hq
    have ⟨more, h₁, h₂⟩ := h.there
    simp only [h₁, h₂]
    exact {
      workingDirectory := h.workingDirectory
      elsewhere := fun r hr => by rw [node?_put_of_ne hr, node?_put_of_ne hr, h.elsewhere r hr]
      there := ⟨more ++ bytes, by simp, by simp⟩ }
  case neg =>
    rw [h.elsewhere q hq]
    cases v₂.node? q
    case none => exact h
    case some n =>
      cases n
      case file content => exact h.put hq
      all_goals exact h

end Volume.Apart
end AccessControl
