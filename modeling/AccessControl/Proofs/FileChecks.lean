import AccessControl.Proofs.Components
import AccessControl.Proofs.Loading

namespace AccessControl

open Utf8

namespace Settings

inductive Check
  | nonempty
  | pathLength
  | componentLength
  | readable
  | size
  | encoding
  | text
deriving DecidableEq, Repr

namespace Check

-- In the order in which they are made.
def all : List Check := [nonempty, pathLength, componentLength, readable, size, encoding, text]

def earlier (c : Check) : List Check :=
  all.takeWhile (· ≠ c)

-- Those that need the path only.
def ofPath : List Check := [nonempty, pathLength, componentLength]

variable (file : Volume.Reader) (path : String)

-- What a check demands, whatever becomes of the others. Of a content that is not there nothing is demanded.
def Passes : Check → Prop
  | nonempty => path ≠ ""
  | pathLength => (encodeString path).length ≤ 4096
  | componentLength => ∀ c, Path.IsComponent path c → (encodeString c).length ≤ 255
  | readable => ∃ content, file path = .ok content
  | size => ∀ content, file path = .ok content → content.length ≤ 1048576
  | encoding => ∀ content, file path = .ok content → ∃ text, content = encodeString text
  | text => ∀ content, file path = .ok content → ∃ s, ofText content = .ok s

-- The error in which a check ends that fails.
inductive Reports : Check → ConfigError → Prop
  | nonempty : Reports .nonempty (.invalid .emptyPath)
  | pathLength : Reports .pathLength (.invalid .pathTooLong)
  | componentLength : Reports .componentLength (.invalid .pathComponentTooLong)
  | readable {e : FileError} (h : file path = .error e) : Reports .readable (.io e)
  | size : Reports .size (.invalid .fileTooLarge)
  | encoding : Reports .encoding (.invalid .notUtf8)
  | text {content : Bytes} {e : Json.ReadError} (hf : file path = .ok content) (ht : ofText content = .error e) :
    Reports .text (.parse e)

structure FailsFirst (c : Check) : Prop where
  fails : ¬c.Passes file path
  before : ∀ c' ∈ c.earlier, c'.Passes file path

variable {file path} {c : Check} {e e' : ConfigError}

theorem Reports.unique (h : c.Reports file path e) (h' : c.Reports file path e') : e = e' := by
  cases h <;> cases h'
  case readable.readable h _ h' => rw [Except.error.inj (h.symm.trans h')]
  case text.text content e hf ht content' e' hf' ht' =>
    cases Except.ok.inj (hf.symm.trans hf')
    rw [Except.error.inj (ht.symm.trans ht')]
  all_goals rfl

theorem mem_all (c : Check) : c ∈ all := by
  cases c <;> decide

theorem earlier_eq {before after : List Check} (h : all = before ++ c :: after) (hc : c ∉ before) :
    c.earlier = before := by
  have hb : ∀ c' ∈ before, decide (c' ≠ c) = true := fun c' hm => decide_eq_true fun he => hc (he ▸ hm)
  rw [earlier, h, List.takeWhile_append_of_pos hb, List.takeWhile_cons_of_neg (by simp), List.append_nil]

theorem mem_earlier (c c' : Check) (h : c ∉ ofPath) (h' : c' ∈ ofPath) : c' ∈ c.earlier := by
  revert h h'
  cases c <;> cases c' <;> decide

-- A file that does not pass all checks fails one of them first.
theorem all_pass_or_failsFirst (file : Volume.Reader) (path : String) :
    (∀ c : Check, c.Passes file path) ∨ ∃ c : Check, c.FailsFirst file path := by
  classical
  cases hf : all.find? fun c => !decide (c.Passes file path)
  case none => exact .inl fun c => by simpa using List.find?_eq_none.mp hf c c.mem_all
  case some c =>
    obtain ⟨hn, before, after, ha, hb⟩ := List.find?_eq_some_iff_append.mp hf
    have hn : ¬c.Passes file path := by simpa using hn
    have hb : ∀ c' ∈ before, c'.Passes file path := by simpa using hb
    refine .inr ⟨c, hn, ?_⟩
    rwa [earlier_eq ha fun hc => hn (hb c hc)]

end Check

section Stages

variable {file : Volume.Reader} {path : String} {content : Bytes} {f : ConfigFault}

theorem checkPath_of_long (hn : path ≠ "") (hl : ¬(encodeString path).length ≤ maxPathLength) :
    checkPath path = .error .pathTooLong := by
  rw [length_encodeString, Nat.not_le] at hl
  rw [checkPath, if_neg (by simpa using hn), if_pos hl]

theorem checkPath_of_component {c : String} (hn : path ≠ "") (hl : (encodeString path).length ≤ maxPathLength)
    (hc : Path.IsComponent path c) (hs : ¬(encodeString c).length ≤ maxPathComponent) :
    checkPath path = .error .pathComponentTooLong := by
  rw [length_encodeString] at hl
  have ha : (path.splitOn "/").any (maxPathComponent < Utf8.length ·) = true :=
    (Path.any_splitOn_iff (by decide)).mpr ⟨c, hc, Nat.not_le.mp hs⟩
  rw [checkPath, if_neg (by simpa using hn), if_neg (Nat.not_lt.mpr hl), if_pos ha]

theorem checkPath_of_passes (h : ∀ c ∈ Check.ofPath, c.Passes file path) : checkPath path = .ok () := by
  have hn : path ≠ "" := h .nonempty (by decide)
  have hl : (encodeString path).length ≤ maxPathLength := h .pathLength (by decide)
  have hc : ∀ c, Path.IsComponent path c → (encodeString c).length ≤ maxPathComponent :=
    h .componentLength (by decide)
  have ha : ¬(path.splitOn "/").any (maxPathComponent < Utf8.length ·) = true := by
    rw [Path.any_splitOn_iff (by decide)]
    rintro ⟨c, hm, hs⟩
    exact Nat.not_lt.mpr (hc c hm) hs
  rw [length_encodeString] at hl
  rw [checkPath, if_neg (by simpa using hn), if_neg (Nat.not_lt.mpr hl), if_neg ha]

theorem load_of_path_fault (h : checkPath path = .error f) : load file path = .error (.invalid f) := by
  rw [load, h]

theorem load_of_unreadable {e : FileError} (hp : checkPath path = .ok ()) (hf : file path = .error e) :
    load file path = .error (.io e) := by
  simp only [load, hp, hf]

theorem load_of_oversize (hp : checkPath path = .ok ()) (hf : file path = .ok content)
    (hs : ¬content.length ≤ maxFileSize) : load file path = .error (.invalid .fileTooLarge) := by
  simp only [load, hp, hf, if_pos (Nat.not_le.mp hs)]

theorem load_of_undecodable (hp : checkPath path = .ok ()) (hf : file path = .ok content)
    (hs : content.length ≤ maxFileSize) (hu : ∀ text, content ≠ encodeString text) :
    load file path = .error (.invalid .notUtf8) := by
  have hd : decode? content = none := by
    refine Option.eq_none_iff_forall_ne_some.mpr fun cs hc => hu (.ofList cs) ?_
    rw [encodeString, String.toList_ofList, decode?_eq_some_iff.mp hc]
  simp only [load, hp, hf, if_neg (Nat.not_lt.mpr hs), hd, Option.isNone_none, if_true]

theorem load_of_encodeString {text : String} (hp : checkPath path = .ok ()) (hf : file path = .ok (encodeString text))
    (hs : (encodeString text).length ≤ maxFileSize) :
    load file path = (ofText (encodeString text)).mapError .parse := by
  refine load_of_content hp hf hs ?_
  rw [encodeString, decode?_encode]
  rfl

end Stages

section

variable {file : Volume.Reader} {path : String} {s : Settings} {e : ConfigError} {c : Check}

theorem checkPath_of_failsFirst (hc : c ∈ Check.ofPath) (h : c.FailsFirst file path) :
    ∃ f, checkPath path = .error f ∧ c.Reports file path (.invalid f) := by
  have passes (c' : Check) (hm : c' ∈ c.earlier) : c'.Passes file path := h.before c' hm
  have hn := h.fails
  cases c
  case nonempty =>
    cases not_not.mp hn
    exact ⟨_, rfl, .nonempty⟩
  case pathLength => exact ⟨_, checkPath_of_long (passes .nonempty (by decide)) hn, .pathLength⟩
  case componentLength =>
    obtain ⟨part, hc, hs⟩ : ∃ part, Path.IsComponent path part ∧ ¬(encodeString part).length ≤ 255 := by
      simpa [Check.Passes] using hn
    have hp := checkPath_of_component (passes .nonempty (by decide)) (passes .pathLength (by decide)) hc hs
    exact ⟨_, hp, .componentLength⟩
  all_goals contradiction

-- The check that fails first is the one that is heard of.
theorem load_of_failsFirst (h : c.FailsFirst file path) : ∃ e, load file path = .error e ∧ c.Reports file path e := by
  by_cases hc : c ∈ Check.ofPath
  case pos =>
    obtain ⟨f, hf, hr⟩ := checkPath_of_failsFirst hc h
    exact ⟨_, load_of_path_fault hf, hr⟩
  case neg =>
    have passes (c' : Check) (hm : c' ∈ c.earlier) : c'.Passes file path := h.before c' hm
    have hn := h.fails
    have hp : checkPath path = .ok () := checkPath_of_passes fun c' hc' => passes c' (c.mem_earlier c' hc hc')
    cases c
    case nonempty | pathLength | componentLength => exact absurd (by decide) hc
    case readable =>
      cases hf : file path
      case ok content => exact absurd ⟨content, hf⟩ hn
      case error e => exact ⟨_, load_of_unreadable hp hf, .readable hf⟩
    all_goals obtain ⟨content, hf⟩ := passes .readable (by decide)
    case size =>
      have hs : ¬content.length ≤ 1048576 := by simpa [Check.Passes, hf] using hn
      exact ⟨_, load_of_oversize hp hf hs, .size⟩
    all_goals have hs : content.length ≤ maxFileSize := passes .size (by decide) content hf
    case encoding =>
      have hu : ∀ text, content ≠ encodeString text := by simpa [Check.Passes, hf] using hn
      exact ⟨_, load_of_undecodable hp hf hs hu, .encoding⟩
    case text =>
      obtain ⟨text, rfl⟩ := passes .encoding (by decide) content hf
      cases ht : ofText (encodeString text)
      case ok s => exact absurd (fun content' hf' => ⟨s, Except.ok.inj (hf.symm.trans hf') ▸ ht⟩) hn
      case error e => exact ⟨.parse e, by rw [load_of_encodeString hp hf hs, ht]; rfl, .text hf ht⟩

theorem passes_of_load (h : load file path = .ok s) (c : Check) : c.Passes file path := by
  rcases Check.all_pass_or_failsFirst file path with hp | ⟨c, hc⟩
  case inl => exact hp c
  case inr =>
    obtain ⟨e, he, _⟩ := load_of_failsFirst hc
    rw [h] at he
    contradiction

theorem load_eq_ok_iff :
    load file path = .ok s ↔
      (∀ c ∈ Check.ofPath, c.Passes file path) ∧
        ∃ text, file path = .ok (encodeString text) ∧ (encodeString text).length ≤ 1048576 ∧
          ofText (encodeString text) = .ok s := by
  constructor
  case mp =>
    intro h
    have hp (c : Check) : c.Passes file path := passes_of_load h c
    obtain ⟨content, hf⟩ := hp .readable
    obtain ⟨text, rfl⟩ := hp .encoding content hf
    refine ⟨fun c _ => hp c, text, hf, hp .size _ hf, ?_⟩
    rw [load_of_encodeString (checkPath_of_passes fun c _ => hp c) hf (hp .size _ hf)] at h
    cases ht : ofText (encodeString text) <;> rw [ht] at h <;> cases h
    rfl
  case mpr =>
    rintro ⟨hp, text, hf, hs, ht⟩
    rw [load_of_encodeString (checkPath_of_passes hp) hf hs, ht]
    rfl

theorem load_eq_error_iff : load file path = .error e ↔ ∃ c : Check, c.FailsFirst file path ∧ c.Reports file path e := by
  constructor
  case mp =>
    intro h
    rcases Check.all_pass_or_failsFirst file path with hp | ⟨c, hc⟩
    case inl =>
      obtain ⟨content, hf⟩ := hp .readable
      obtain ⟨text, rfl⟩ := hp .encoding content hf
      obtain ⟨s, ht⟩ := hp .text _ hf
      have hl : load file path = .ok s := load_eq_ok_iff.mpr ⟨fun c _ => hp c, text, hf, hp .size _ hf, ht⟩
      rw [h] at hl
      contradiction
    case inr =>
      obtain ⟨e', he, hr⟩ := load_of_failsFirst hc
      rw [h] at he
      cases he
      exact ⟨c, hc, hr⟩
  case mpr =>
    rintro ⟨c, hc, hr⟩
    obtain ⟨e', he, hr'⟩ := load_of_failsFirst hc
    rw [he, hr'.unique hr]

end

-- What a failed check says is all that is said: checks after it are not heard, and a check of the path is made without
-- the files. So a file that is too large is reported as that, whatever its bytes are.
theorem load_settled_by_checks (file : Volume.Reader) (path : String) :
    (∀ s, load file path = .ok s ↔
      path ≠ "" ∧ (encodeString path).length ≤ 4096 ∧
        (∀ c, Path.IsComponent path c → (encodeString c).length ≤ 255) ∧
        ∃ text, file path = .ok (encodeString text) ∧ (encodeString text).length ≤ 1048576 ∧
          ofText (encodeString text) = .ok s) ∧
      (∀ e, load file path = .error e ↔ ∃ c : Check, c.FailsFirst file path ∧ c.Reports file path e) ∧
      (∀ c ∈ Check.ofPath, c.FailsFirst file path → ∀ file', load file' path = load file path) ∧
      ∀ content, (∀ c ∈ Check.ofPath, c.Passes file path) → file path = .ok content → 1048576 < content.length →
        load file path = .error (.invalid .fileTooLarge) := by
  refine ⟨fun s => ?accepted, fun e => load_eq_error_iff, ?untouched, ?oversize⟩
  case accepted =>
    rw [load_eq_ok_iff]
    simp only [Check.ofPath, List.forall_mem_cons, List.not_mem_nil, false_imp_iff, implies_true, and_true, and_assoc]
    rfl
  case untouched =>
    intro c hc h file'
    obtain ⟨f, hf, _⟩ := checkPath_of_failsFirst hc h
    rw [load_of_path_fault hf, load_of_path_fault hf]
  case oversize =>
    intro content hp hf hs
    exact load_of_oversize (checkPath_of_passes hp) hf (Nat.not_le.mpr hs)

end Settings
end AccessControl
