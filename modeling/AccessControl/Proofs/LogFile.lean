import AccessControl.Log.Sink
import AccessControl.Proofs.Appending
import AccessControl.Proofs.ExitStatus
import AccessControl.Proofs.Gate
import AccessControl.Proofs.LogLine

namespace AccessControl

open Utf8

namespace Log

-- The lines of a file. Each one ends at a line feed, the last one perhaps where the file does.
def linesOf : Bytes → List Bytes
  | [] => []
  | b :: bs =>
    if b = 0x0A then [] :: linesOf bs
    else
      match linesOf bs with
      | [] => [[b]]
      | line :: lines => (b :: line) :: lines

-- The last line of a file is ended.
def EndsLine (content : Bytes) : Prop :=
  content = [] ∨ content.getLast? = some 0x0A

def framed (lines : List Bytes) : Bytes :=
  lines.flatMap (· ++ [0x0A])

theorem linesOf_ne_nil {bs : Bytes} (h : bs ≠ []) : linesOf bs ≠ [] := by
  cases bs
  case nil => contradiction
  case cons b bs =>
    unfold linesOf
    split
    case isTrue => exact List.cons_ne_nil _ _
    case isFalse => split <;> exact List.cons_ne_nil _ _

theorem linesOf_line {line : Bytes} (h : 0x0A ∉ line) (rest : Bytes) :
    linesOf (line ++ 0x0A :: rest) = line :: linesOf rest := by
  induction line
  case nil => rfl
  case cons b line hi =>
    have ⟨hb, hl⟩ := List.ne_and_not_mem_of_not_mem_cons h
    rw [List.cons_append, linesOf, if_neg hb.symm, hi hl]

theorem linesOf_framed {lines : List Bytes} (h : ∀ line ∈ lines, 0x0A ∉ line) : linesOf (framed lines) = lines := by
  induction lines
  case nil => rfl
  case cons line lines hi =>
    have ⟨hl, hr⟩ := List.forall_mem_cons.mp h
    have hf : framed (line :: lines) = line ++ 0x0A :: framed lines := by simp [framed]
    rw [hf, linesOf_line hl, hi hr]

-- What is put behind a line that is ended begins a line of its own.
theorem linesOf_append {content : Bytes} (h : EndsLine content) (more : Bytes) :
    linesOf (content ++ more) = linesOf content ++ linesOf more := by
  induction content
  case nil => rfl
  case cons b bs hi =>
    have hl : (b :: bs).getLast? = some 0x0A := h.resolve_left (List.cons_ne_nil b bs)
    by_cases hb : b = 0x0A
    case pos =>
      have he : EndsLine bs := by
        cases bs
        case nil => exact .inl rfl
        case cons c cs => exact .inr <| by rwa [List.getLast?_cons_cons] at hl
      rw [List.cons_append, linesOf, linesOf, if_pos hb, if_pos hb, hi he]
      rfl
    case neg =>
      cases bs
      case nil => exact absurd (Option.some.inj hl) hb
      case cons c cs =>
        have he : EndsLine (c :: cs) := .inr <| by rwa [List.getLast?_cons_cons] at hl
        rw [List.cons_append, linesOf, linesOf, if_neg hb, if_neg hb, hi he]
        cases hs : linesOf (c :: cs)
        case nil => exact absurd hs <| linesOf_ne_nil (List.cons_ne_nil c cs)
        case cons line lines => rfl

theorem encodeString_lines (es : List Event) : encodeString (lines es) = framed (es.map Event.text) := by
  have ht (e : Event) : encode (e.line ++ "\n").toList = e.text ++ [0x0A] := by
    rw [String.toList_append, encode_append]
    rfl
  induction es
  case nil => rfl
  case cons e es hi =>
    have hl : lines (e :: es) = e.line ++ "\n" ++ lines es := by simp [lines]
    rw [encodeString, hl, String.toList_append, encode_append, ht]
    exact congrArg _ hi

-- The line tells of the event and of nothing else.
structure Event.IsToldIn (e : Event) (line : Bytes) : Prop where
  visible : ∀ b ∈ line, 0x20 ≤ b
  event : Event.ofLine? line = some e
  -- read by a reader whose numbers have 64 bits
  value : e.time ≤ Json.maxSignificand →
    Json.read line = .ok (.object
      [("event", .string e.name), ("level", .string e.level.name), ("message", .string e.message),
        ("request_id", .ofOption (e.requestId.map (·.text))), ("timestamp_ms", .nat e.time)])

theorem Event.isToldIn_text (e : Event) : e.IsToldIn e.text where
  visible := e.le_of_mem_text
  event := e.ofLine?_text
  value := e.read_text

theorem Event.lineFeed_not_mem_text (e : Event) : 0x0A ∉ e.text :=
  fun h => absurd (e.le_of_mem_text 0x0A h) (by decide)

namespace Sink

def Step.event? : Step → Option Event
  | .recorded e => some e
  | .reopened => none

-- The events of some steps, in order.
def events (steps : List Step) : List Event :=
  steps.filterMap Step.event?

theorem events_cons (t : Step) (ts : List Step) : events (t :: ts) = t.event?.toList ++ events ts := by
  cases t <;> rfl

-- What is left of a file with this content by a sink that has gone on from another one to these lines.
structure Extends (path : String) (content : Bytes) (s : Sink) (events : List Event) (s' : Sink) : Prop where
  place : s'.place = s.place
  holds : s'.files.Holds path s.place (content ++ framed (events.map Event.text))
  elsewhere : ∀ q, q ≠ s.place → s'.files.node? q = s.files.node? q

variable {path : String} {content : Bytes} {s : Sink} {files : Volume}

theorem record_extends (h : s.files.Holds path s.place content) (e : Event) :
    Extends path content s [e] (s.record e) where
  place := rfl
  holds := by
    rw [← encodeString_lines]
    exact h.append _
  elsewhere q hq := h.append_elsewhere _ hq

theorem step_extends (h : s.files.Holds path s.place content) (t : Step) :
    ∃ s', s.step path t = .ok s' ∧ Extends path content s t.event?.toList s' := by
  cases t
  case recorded e => exact ⟨s.record e, rfl, record_extends h e⟩
  case reopened =>
    have ho : ofPath s.files path = .ok s := by rw [ofPath, h.openAppend_eq]; rfl
    exact ⟨s, ho, { place := rfl, holds := by simpa [Step.event?, framed] using h, elsewhere := fun _ _ => rfl }⟩

-- The step is `step_extends`; the run follows by induction on the steps.
theorem run_extends (h : s.files.Holds path s.place content) (steps : List Step) :
    ∃ s', s.run path steps = .ok s' ∧ Extends path content s (events steps) s' := by
  induction steps generalizing s content
  case nil =>
    exact ⟨s, rfl, { place := rfl, holds := by simpa [events, framed] using h, elsewhere := fun _ _ => rfl }⟩
  case cons t ts hi =>
    have ⟨s₁, h₁, x₁⟩ := step_extends h t
    have ⟨s₂, h₂, x₂⟩ := hi (x₁.place ▸ x₁.holds)
    refine ⟨s₂, by rw [run, h₁]; exact h₂, ?_⟩
    have he : framed ((events (t :: ts)).map Event.text) =
        framed (t.event?.toList.map Event.text) ++ framed ((events ts).map Event.text) := by
      rw [events_cons, framed, List.map_append, List.flatMap_append, ← framed, ← framed]
    exact {
      place := x₂.place.trans x₁.place
      holds := by
        rw [he, ← List.append_assoc, ← x₁.place]
        exact x₂.holds
      elsewhere := fun q hq => (x₂.elsewhere q (x₁.place ▸ hq)).trans (x₁.elsewhere q hq) }

theorem holds_of_ofPath (h : ofPath files path = .ok s) :
    ∃ content, files.IsThere s.place content ∧ s.files.Holds path s.place content := by
  unfold ofPath at h
  cases hf : files.openAppend path <;> rw [hf] at h <;> cases h
  exact Volume.Holds.of_openAppend hf

-- What is there stays in front of the lines, one for each event, and each line tells of its event. To open the
-- sink again, at whatever steps, makes no difference: the lines are those of the events.
theorem run_appends_lines {prior : Bytes} (ho : ofPath files path = .ok s) (hp : files.IsThere s.place prior)
    (hn : EndsLine prior) (steps : List Step) :
    let lines := (events steps).map Event.text
    ∃ s', s.run path steps = .ok s' ∧ s'.place = s.place ∧
      s'.files.node? s.place = some (.file (prior ++ framed lines)) ∧
      (∀ q, q ≠ s.place → s'.files.node? q = s.files.node? q) ∧
      linesOf (prior ++ framed lines) = linesOf prior ++ lines ∧
      List.Forall₂ Event.IsToldIn (events steps) lines := by
  intro lines
  have ⟨content, ht, hh⟩ := holds_of_ofPath ho
  cases hp.unique ht
  have ⟨s', hr, hx⟩ := run_extends hh steps
  have hl : ∀ line ∈ lines, 0x0A ∉ line :=
    List.forall_mem_map.mpr fun e _ => e.lineFeed_not_mem_text
  refine ⟨s', hr, hx.place, hx.holds.node?_eq, hx.elsewhere, ?_, ?_⟩
  · rw [linesOf_append hn, linesOf_framed hl]
  · exact List.forall₂_map_right_iff.mpr <| List.forall₂_same.mpr fun e _ => e.isToldIn_text

-- A message that would end its line and add a member, and the file opened again before the next event.
theorem run_appends_lines_reopened :
    let files : Volume := { entries := [(["log"], .file (encodeString "kept\n"))], workingDirectory := [] }
    let forged : Event := ⟨"access_decision", .info, 7, none, "a\n\",\"level\":\"error"⟩
    let failed : Event := ⟨"access_decision_failed", .error, 8, some ⟨"\t\r"⟩, "denied"⟩
    let lines := [forged, failed].map Event.text
    ofPath files "log" = .ok ⟨["log"], files⟩ ∧
    ∃ s', run "log" [.recorded forged, .reopened, .recorded failed] ⟨["log"], files⟩ = .ok s' ∧
      s'.place = ["log"] ∧
      s'.files.node? ["log"] = some (.file (encodeString "kept\n" ++ framed lines)) ∧
      (∀ q, q ≠ ["log"] → s'.files.node? q = files.node? q) ∧
      linesOf (encodeString "kept\n" ++ framed lines) = linesOf (encodeString "kept\n") ++ lines ∧
      List.Forall₂ Event.IsToldIn [forged, failed] lines := by
  intro files forged failed lines
  have ho : ofPath files "log" = .ok ⟨["log"], files⟩ := by cbv
  exact ⟨ho, run_appends_lines ho (.inl rfl) (.inr (by decide +kernel)) _⟩

theorem events_recorded (es : List Event) : events (es.map .recorded) = es := by
  induction es
  case nil => rfl
  case cons e es hi =>
    rw [List.map_cons, events_cons, hi]
    rfl

-- A run that logs to a file leaves the tree of files as a sink does that records the same events one by one.
theorem report_files {i : CommandLine.Invocation} (hl : i.logPath = some path) (ho : ofPath files path = .ok s)
    (environment : Environment) {σ : Type} (transport : Volume.Reader → Transport σ) (draw : Run σ Call) (time : Nat)
    (state : σ) :
    let o := i.report environment files transport draw time state
    ∃ s', s.run path ((Effect.records o.effects).map .recorded) = .ok s' ∧
      ∀ q, o.value.files.node? q = s'.files.node? q := by
  intro o
  have ⟨content, _, hh⟩ := holds_of_ofPath ho
  have ⟨s', hr, hx⟩ := run_extends hh ((Effect.records o.effects).map .recorded)
  have hf : o.value.files =
      s.files.append s.place (framed ((Effect.records o.effects).map Event.text)) := by
    unfold ofPath at ho
    cases hv : files.openAppend path <;> rw [hv] at ho <;> cases ho
    have hp : o = _ := CommandLine.Invocation.report_logged hl hv
    have he : o.effects = _ := congrArg Outcome.effects hp
    rw [← encodeString_lines, he]
    exact congrArg (·.value.files) hp
  refine ⟨s', hr, fun q => ?_⟩
  by_cases hq : q = s.place
  case pos =>
    rw [hq, hf, hx.holds.node?_eq, events_recorded]
    exact (hh.append _).node?_eq
  case neg => rw [hf, hh.append_elsewhere _ hq, hx.elsewhere q hq]

end Sink
end Log
end AccessControl
