import AccessControl.Proofs.Batch
import Mathlib.Data.List.Forall2

namespace AccessControl

theorem mapM_eq_ok_iff {ε α β : Type} {f : α → Except ε β} {xs : List α} {ys : List β} :
    xs.mapM f = .ok ys ↔ List.Forall₂ (fun x y => f x = .ok y) xs ys := by
  induction xs generalizing ys
  case nil => cases ys <;> simp [pure, Except.pure]
  case cons x xs hi =>
    rw [List.mapM_cons]
    cases hx : f x
    case error e => cases ys <;> simp [bind, Except.bind, hx]
    case ok y =>
      cases hs : xs.mapM f <;> cases ys <;> simp [bind, Except.bind, pure, Except.pure, ← hi, hx, hs]

namespace Response

-- A member that is a text, null or not there, and the text that it gives.
inductive GivesText : Option Json → Option String → Prop
  | absent : GivesText none none
  | null : GivesText (some .null) none
  | text (s : String) : GivesText (some (.string s)) (some s)

-- A member that is a list, null or not there, and the items that it gives.
inductive GivesItems : Option Json → List Json → Prop
  | absent : GivesItems none []
  | null : GivesItems (some .null) []
  | items (vs : List Json) : GivesItems (some (.array vs)) vs

-- The decision that an object with these members is. No member is lost, and none has two places.
structure GivesDecision (ms : List (String × Json)) (d : ServiceDecision) : Prop where
  decision : GivesText (ms.lookup "decision") d.decision
  reason : GivesText (ms.lookup "reason") d.reason
  assetId : GivesText (ms.lookup "assetId") d.assetId
  attributes : d.attributes = ms.filter fun m => m.1 ∉ ["decision", "reason", "assetId"]

-- What is read of an object with these members.
structure GivesResponse (ms : List (String × Json)) (r : Response) : Prop where
  decisions : ∃ items, GivesItems (ms.lookup "decisions") items ∧
    List.Forall₂ (fun item d => ∃ ks, item = .object ks ∧ GivesDecision ks d) items r.decisions
  nextPageToken : GivesText (ms.lookup "nextPageToken") r.nextPageToken

-- An object that is an answer, told by its members alone.
structure IsResponse (ms : List (String × Json)) : Prop where
  decisions : ∃ items, GivesItems (ms.lookup "decisions") items ∧ ∀ item ∈ items, IsDecision item
  nextPageToken : ∀ v, ms.lookup "nextPageToken" = some v → v = .null ∨ ∃ text, v = .string text

section Texts

variable {v : Option Json} {t : Option String}

theorem optionalText_eq_ok_iff : optionalText v = .ok t ↔ GivesText v t := by
  constructor
  case mp =>
    intro h
    unfold optionalText at h
    split at h <;> cases h
    case h_1 => exact .absent
    case h_2 => exact .null
    case h_3 s => exact .text s
  case mpr =>
    intro h
    cases h <;> rfl

theorem exists_givesText_iff :
    (∃ t, GivesText v t) ↔ ∀ m, v = some m → m = .null ∨ ∃ text, m = .string text := by
  constructor
  case mp =>
    intro ⟨t, h⟩ m hm
    cases h <;> cases hm
    case null => exact .inl rfl
    case text s => exact .inr ⟨s, rfl⟩
  case mpr =>
    intro h
    have ⟨t, ht⟩ := optionalText_isOk h
    exact ⟨t, optionalText_eq_ok_iff.mp ht⟩

end Texts

theorem notContains_namedMembers (key : String) :
    (!namedMembers.contains key) = decide (key ∉ ["decision", "reason", "assetId"]) := by
  by_cases h : key ∈ ["decision", "reason", "assetId"]
  all_goals
    simp only [List.mem_cons, List.not_mem_nil, or_false] at h
    simp [namedMembers, h]
    grind

theorem decisionOf_object_eq_ok_iff {ms : List (String × Json)} {d : ServiceDecision} :
    decisionOf (.object ms) = .ok d ↔ GivesDecision ms d := by
  rw [decisionOf]
  simp only [notContains_namedMembers]
  constructor
  case mp =>
    intro h
    cases ha : optionalText (ms.lookup "assetId") <;> rw [ha] at h <;> try contradiction
    cases hd : optionalText (ms.lookup "decision") <;> rw [hd] at h <;> try contradiction
    cases hr : optionalText (ms.lookup "reason") <;> rw [hr] at h <;> try contradiction
    cases h
    exact { decision := optionalText_eq_ok_iff.mp hd, reason := optionalText_eq_ok_iff.mp hr,
            assetId := optionalText_eq_ok_iff.mp ha, attributes := rfl }
  case mpr =>
    intro h
    rw [optionalText_eq_ok_iff.mpr h.assetId, optionalText_eq_ok_iff.mpr h.decision,
      optionalText_eq_ok_iff.mpr h.reason]
    simp only [bind, Except.bind, pure, Except.pure, ← h.attributes]

theorem decisionOf_eq_ok_iff {v : Json} {d : ServiceDecision} :
    decisionOf v = .ok d ↔ ∃ ms, v = .object ms ∧ GivesDecision ms d := by
  cases v
  case object ms => simp [decisionOf_object_eq_ok_iff]
  all_goals simp [decisionOf]

theorem exists_givesDecision_iff {v : Json} :
    (∃ d ms, v = .object ms ∧ GivesDecision ms d) ↔ IsDecision v := by
  constructor
  case mp =>
    intro ⟨d, ms, hv, hd⟩
    refine ⟨ms, hv, fun name hn => exists_givesText_iff.mp ?_⟩
    simp only [namedMembers, List.mem_cons, List.not_mem_nil, or_false] at hn
    rcases hn with rfl | rfl | rfl
    · exact ⟨_, hd.assetId⟩
    · exact ⟨_, hd.decision⟩
    · exact ⟨_, hd.reason⟩
  case mpr =>
    intro h
    exact ⟨decisionIn v, decisionOf_eq_ok_iff.mp <| decisionOf_eq h⟩

theorem decisionsOf_eq_ok_iff {v : Option Json} {ds : List ServiceDecision} :
    decisionsOf v = .ok ds ↔
      ∃ items, GivesItems v items ∧
        List.Forall₂ (fun item d => ∃ ms, item = .object ms ∧ GivesDecision ms d) items ds := by
  simp only [← decisionOf_eq_ok_iff, ← mapM_eq_ok_iff]
  constructor
  case mp =>
    intro h
    unfold decisionsOf at h
    split at h
    case h_1 => exact ⟨[], .absent, h⟩
    case h_2 => exact ⟨[], .null, h⟩
    case h_3 items => exact ⟨items, .items items, h⟩
    case h_4 => contradiction
  case mpr =>
    intro ⟨items, hg, h⟩
    cases hg <;> exact h

theorem ofJson_object_eq_ok_iff {ms : List (String × Json)} {r : Response} :
    ofJson (.object ms) = .ok r ↔ GivesResponse ms r := by
  rw [ofJson]
  constructor
  case mp =>
    intro h
    cases hd : decisionsOf (ms.lookup "decisions") <;> rw [hd] at h <;> try contradiction
    cases hn : optionalText (ms.lookup "nextPageToken") <;> rw [hn] at h <;> try contradiction
    cases h
    exact { decisions := decisionsOf_eq_ok_iff.mp hd, nextPageToken := optionalText_eq_ok_iff.mp hn }
  case mpr =>
    intro h
    rw [decisionsOf_eq_ok_iff.mpr h.decisions, optionalText_eq_ok_iff.mpr h.nextPageToken]
    rfl

-- An object is read exactly if it is an answer: there is something to be read of every part of it.
theorem exists_givesResponse_iff {ms : List (String × Json)} :
    (∃ r, GivesResponse ms r) ↔ IsResponse ms := by
  constructor
  case mp =>
    intro ⟨r, hr⟩
    have ⟨items, hg, hd⟩ := hr.decisions
    have hi := hd.imp fun _ d h => And.intro (exists_givesDecision_iff.mp ⟨d, h⟩) h
    exact { decisions := ⟨items, hg, ((List.forall₂_and_left ..).mp hi).left⟩
            nextPageToken := exists_givesText_iff.mp ⟨_, hr.nextPageToken⟩ }
  case mpr =>
    intro h
    have ⟨items, hg, hd⟩ := h.decisions
    have ⟨t, ht⟩ := exists_givesText_iff.mpr h.nextPageToken
    have hm := mapM_eq_ok_iff.mp <| mapM_decisionOf hd
    simp only [decisionOf_eq_ok_iff] at hm
    exact ⟨⟨items.map decisionIn, t⟩, ⟨items, hg, hm⟩, ht⟩

-- The answer is refused as a whole.
def IsMalformed (call : Call) (ms : List (String × Json)) : Prop :=
  ∃ why, Client.reading call (.ok (.object ms)) =
    .error (.unexpected ("malformed decision response: " ++ why) call.requestId)

theorem isMalformed_of_not_isResponse (call : Call) {ms : List (String × Json)} (h : ¬IsResponse ms) :
    IsMalformed call ms := by
  cases hr : ofJson (.object ms)
  case error e => exact ⟨e.message, by rw [Client.reading, hr]; rfl⟩
  case ok r => exact absurd (exists_givesResponse_iff.mp ⟨r, ofJson_object_eq_ok_iff.mp hr⟩) h

theorem isDecision_of_isResponse {ms : List (String × Json)} {items : List Json} {item : Json} {i : Nat}
    (h : IsResponse ms) (hd : ms.lookup "decisions" = some (.array items)) (hi : items[i]? = some item) :
    IsDecision item := by
  have ⟨items', hg, hs⟩ := h.decisions
  rw [hd] at hg
  cases hg
  exact hs item <| List.mem_of_getElem? hi

theorem ofJson_object (ms : List (String × Json)) (call : Call) :
    ((∃ r, ofJson (.object ms) = .ok r) ↔ IsResponse ms) ∧
      (∀ r, ofJson (.object ms) = .ok r ↔ GivesResponse ms r) ∧
      (¬IsResponse ms → IsMalformed call ms) ∧
      (∀ (items : List Json) (i : Nat) (item : Json), ms.lookup "decisions" = some (.array items) →
        items[i]? = some item → ¬IsDecision item → IsMalformed call ms) ∧
      ∀ ms', (∀ key ∈ ["decisions", "nextPageToken"], ms'.lookup key = ms.lookup key) →
        ofJson (.object ms') = ofJson (.object ms) := by
  refine ⟨?accepts, fun r => ofJson_object_eq_ok_iff, isMalformed_of_not_isResponse call, ?one, ?others⟩
  case accepts =>
    simp only [ofJson_object_eq_ok_iff]
    exact exists_givesResponse_iff
  case one =>
    intro items i item hd hi hn
    exact isMalformed_of_not_isResponse call fun h => hn <| isDecision_of_isResponse h hd hi
  case others =>
    intro ms' h
    rw [ofJson, ofJson, h "decisions" (by decide), h "nextPageToken" (by decide)]

-- A member without a name is kept as it is, and null is no text; with a number for the word of the second
-- decision, nothing is taken from the first.
theorem ofJson_object_partly_malformed :
    let allowed : Json := .object [("assetId", .null), ("decision", .string "Allow"), ("ttl", .nat 5)]
    let whole := [("decisions", Json.array [allowed]), ("trace", .bool true)]
    let partly := [("decisions", Json.array [allowed, .object [("decision", .nat 1)]])]
    IsResponse whole ∧ IsMalformed ⟨⟨"r"⟩, 0⟩ partly ∧
      ofJson (.object whole) = .ok ⟨[⟨some "Allow", none, none, [("ttl", .nat 5)]⟩], none⟩ := by
  intro allowed whole partly
  have hw : ofJson (.object whole) = .ok ⟨[⟨some "Allow", none, none, [("ttl", .nat 5)]⟩], none⟩ := by rfl
  have ⟨accepts, _⟩ := ofJson_object whole ⟨⟨"r"⟩, 0⟩
  have ⟨_, _, _, one, _⟩ := ofJson_object partly ⟨⟨"r"⟩, 0⟩
  refine ⟨accepts.mp ⟨_, hw⟩, one _ 1 (.object [("decision", .nat 1)]) rfl rfl ?_, hw⟩
  intro ⟨ms, he, hd⟩
  cases he
  cases hd "decision" (by decide) (.nat 1) rfl
  case inl h => contradiction
  case inr h => exact nomatch h

end Response
end AccessControl
