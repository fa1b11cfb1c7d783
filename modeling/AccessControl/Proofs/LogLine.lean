import AccessControl.Log.Event
import AccessControl.Proofs.DecimalText
import AccessControl.Proofs.Printed
import AccessControl.Proofs.RoundTrip

namespace AccessControl

open Utf8

namespace Json

-- No control character is among these.
def Visible (cs : List Char) : Prop :=
  ∀ c ∈ cs, 0x20 ≤ c.toNat

instance (cs : List Char) : Decidable (Visible cs) :=
  List.decidableBAll _ cs

theorem Visible.append {cs ds : List Char} (hc : Visible cs) (hd : Visible ds) : Visible (cs ++ ds) :=
  List.forall_mem_append.mpr ⟨hc, hd⟩

theorem Visible.cons {c : Char} {cs : List Char} (hc : 0x20 ≤ c.toNat) (h : Visible cs) : Visible (c :: cs) :=
  List.forall_mem_cons.mpr ⟨hc, h⟩

theorem Visible.le_of_mem_encode {cs : List Char} (h : Visible cs) : ∀ b ∈ encode cs, 0x20 ≤ b := by
  have hl {n : Nat} (hn : n < 0x100) (hv : 0x20 ≤ n) : 0x20 ≤ UInt8.ofNat n := by
    have ht : (UInt8.ofNat n).toNat = n := UInt8.toNat_ofNat_of_lt hn
    rw [UInt8.le_iff_toNat_le, ht]
    exact hv
  intro b hb
  have ⟨c, hc, hm⟩ := List.mem_flatMap.mp hb
  rcases mem_encodeChar hm with ⟨hn, rfl⟩ | ⟨n, hn, rfl⟩
  · exact hl (by omega) (h c hc)
  · exact hl (by omega) (by omega)

theorem visible_hex4 (n : Nat) : Visible (hex4 n) := by
  have all : ∀ k < 16, 0x20 ≤ (Text.hexDigit k).toNat := by decide
  intro d hd
  have ⟨k, hk, he⟩ := List.mem_map.mp hd
  simp only [List.mem_cons, List.not_mem_nil, or_false] at hk
  exact he ▸ all k (by omega)

theorem visible_escapeChar (c : Char) : Visible (escapeChar c) := by
  have all : Visible (shortEscaped.flatMap escapeChar) := by decide
  by_cases hs : c ∈ shortEscaped
  case pos => exact fun d hd => all d <| List.mem_flatMap.mpr ⟨c, hs, hd⟩
  case neg =>
    by_cases hc : c.toNat < 0x20
    case pos =>
      rw [escapeChar_control hs hc]
      exact .cons (by decide) <| .cons (by decide) <| visible_hex4 c.toNat
    case neg =>
      rw [escapeChar_plain hs hc]
      exact .cons (Nat.not_lt.mp hc) nofun

theorem visible_stringChars (s : String) : Visible (stringChars s) := by
  have hs : Visible (s.toList.flatMap escapeChar) := by
    intro d hd
    have ⟨c, _, hm⟩ := List.mem_flatMap.mp hd
    exact visible_escapeChar c d hm
  exact .append (.cons (by decide) hs) (by decide)

theorem visible_toDigits (n : Nat) : Visible (Nat.toDigits 10 n) := by
  intro c hc
  have hd := Nat.isDigit_of_mem_toDigits (b := 10) (by decide) (by decide) hc
  simp only [Char.isDigit, Bool.and_eq_true, decide_eq_true_eq, ge_iff_le, UInt32.le_iff_toNat_le] at hd
  exact Nat.le_trans (by decide) hd.left

theorem visible_compactMembers {ms : List (String × Json)} (h : ∀ m ∈ ms, Visible (compactChars m.2)) :
    Visible (compactMembers ms) := by
  induction ms
  case nil => exact nofun
  case cons m ms hi =>
    have ⟨hm, hr⟩ := List.forall_mem_cons.mp h
    have hk := visible_stringChars m.1
    cases ms
    case nil => exact .append hk <| .cons (by decide) hm
    case cons n ns => exact .append hk <| .cons (by decide) <| .append hm <| .cons (by decide) (hi hr)

end Json

namespace Log

def Level.all : List Level := [.debug, .info, .warn, .error]

def Level.ofName? (name : String) : Option Level :=
  all.find? fun level => level.name == name

theorem Level.ofName?_name (level : Level) : ofName? level.name = some level := by
  cases level <;> rfl

-- The value of a member: a number of any size, and a text that may be left out.
def natural? (text : Bytes) : Option Nat :=
  (decode? text).bind Text.readDigits?

def optionalText? (text : Bytes) : Option (Option String) :=
  if text = encodeString "null" then some none else (Json.string? text).map some

-- The event that a line tells of: an object with its five members, and no others.
def Event.ofLine? (line : Bytes) : Option Event := do
  let ms ← Json.members? line
  let name ← (← ms.lookup "event") |> Json.string?
  let level ← (← (← ms.lookup "level") |> Json.string?) |> Level.ofName?
  let time ← (← ms.lookup "timestamp_ms") |> natural?
  let requestId ← (← ms.lookup "request_id") |> optionalText?
  let message ← (← ms.lookup "message") |> Json.string?
  if ms.length = 5 then some { name, level, time, requestId := requestId.map RequestId.mk, message } else none

theorem natural?_written (n : Nat) : natural? (Json.written (.nat n)) = some n := by
  have hw : Json.written (.nat n) = encode (Nat.toDigits 10 n) := rfl
  have hd : Text.readDigits? (Nat.toDigits 10 n) = some n :=
    Text.readDigits?_eq_some_iff.mpr
      ⟨Nat.toDigits_ne_nil, fun c hc => Nat.isDigit_of_mem_toDigits (by decide) (by decide) hc,
        Nat.ofDigitChars_ten_toDigits⟩
  rw [natural?, hw, decode?_encode, Option.bind_some, hd]

theorem string?_written (s : String) : Json.string? (Json.written (.string s)) = some s := by
  have hp := Json.string?_printed Json.isGap_nil 0 s
  rwa [List.append_nil] at hp

theorem optionalText?_written (t : Option String) : optionalText? (Json.written (.ofOption t)) = some t := by
  cases t
  case none => rfl
  case some s =>
    have hq : Json.written (.string s) = 0x22 :: encode (Json.afterQuote s) := rfl
    have hn : Json.written (.string s) ≠ encodeString "null" := by
      rw [hq, show encodeString "null" = 0x6E :: encode ['u', 'l', 'l'] by decide +kernel]
      exact fun h => absurd (List.cons.inj h).left (by decide)
    rw [Json.ofOption, optionalText?, if_neg hn, string?_written]
    rfl

namespace Event

def text (e : Event) : Bytes :=
  encodeString e.line

theorem text_eq_written (e : Event) : e.text = Json.written (.object e.members) :=
  Json.encodeString_compact _

-- A null, a text or a number is all that a member of an event can be.
theorem forall_mem_members {P : Json → Prop} {e : Event} (hn : P .null) (hs : ∀ s, P (.string s))
    (ht : P (.nat e.time)) : ∀ m ∈ e.members, P m.2 := by
  have ho (t : Option String) : P (.ofOption t) := by
    cases t
    case none => exact hn
    case some s => exact hs s
  simp only [members, List.forall_mem_cons]
  exact ⟨hs _, hs _, ht, ho _, hs _, nofun⟩

theorem le_of_mem_text (e : Event) : ∀ b ∈ e.text, 0x20 ≤ b := by
  have hm : ∀ m ∈ e.members, Json.Visible (Json.compactChars m.2) :=
    forall_mem_members (P := fun v => Json.Visible (Json.compactChars v)) (by decide) Json.visible_stringChars
      (Json.visible_toDigits e.time)
  have hv : Json.Visible (Json.compactChars (.object e.members)) :=
    .append (.cons (by decide) (Json.visible_compactMembers hm)) (by decide)
  exact text_eq_written e ▸ hv.le_of_mem_encode

theorem members?_text (e : Event) :
    Json.members? e.text = some (e.members.map fun m => (m.1, Json.written m.2)) := by
  have hv : ∀ m ∈ e.members, Json.IsValue (Json.written m.2) :=
    forall_mem_members (P := fun v => Json.IsValue (Json.written v)) (Json.isValue_printed 0 .null)
      (fun s => Json.isValue_printed 0 (.string s)) (Json.isValue_printed 0 (.nat e.time))
  have hb : Json.members? (_ ++ []) = some (e.members.map fun m => (m.1, Json.written m.2)) :=
    Json.members?_bracketed Json.isGap_nil Json.isGap_nil Json.isGap_nil Json.isGap_nil hv
  rw [List.append_nil] at hb
  rw [text_eq_written, Json.written_object]
  exact hb

theorem ofLine?_text (e : Event) : ofLine? e.text = some e := by
  rw [ofLine?, members?_text]
  simp [members, List.lookup_cons, string?_written, natural?_written, optionalText?_written,
    Level.ofName?_name, Option.map_map, Function.comp_def]

theorem read_text (e : Event) (h : e.time ≤ Json.maxSignificand) :
    Json.read e.text = .ok (.ofMembers e.members) := by
  have hl : -(Nat.pow 2 63 : Nat) ≤ (e.time : Int) := by omega
  have hm : ∀ m ∈ e.members, Json.Restorable 126 m.2 :=
    forall_mem_members .null .string (.integer hl (Int.ofNat_le.mpr h))
  have hb : Json.Brings (Json.readValue ((Json.written (.object e.members)).length + 1) Json.maxDepth)
      (Json.written (.object e.members)) (.ofMembers e.members) :=
    Json.readValue_members (Nat.lt_succ_self _) fun m hi => Json.readValue_written (hm m hi)
  have hr := hb [] .nil
  rw [List.append_nil] at hr
  rw [text_eq_written, Json.read, hr]
  rfl

-- A text with a line break and quotes in it cannot end the line, or the member that it stands in.
example :
    let e : Event := ⟨"access_decision", .info, 7, none, "a\n\",\"level\":\"error"⟩
    e.line = "\x7b\"event\":\"access_decision\",\"level\":\"info\",\"timestamp_ms\":7,\"request_id\":null," ++
      "\"message\":\"a\\n\\\",\\\"level\\\":\\\"error\"\x7d" := by
  decide +kernel

end Event
end Log
end AccessControl
