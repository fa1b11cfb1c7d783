import AccessControl.Proofs.Answers
import AccessControl.Proofs.Request

namespace AccessControl

namespace Response

-- An object whose named members, as far as they are there, are texts or null.
def IsDecision (v : Json) : Prop :=
  ∃ ms, v = .object ms ∧ ∀ name ∈ namedMembers, ∀ m, ms.lookup name = some m →
    m = .null ∨ ∃ text, m = .string text

-- What is read of a decision object; for any other value this means nothing.
def decisionIn (v : Json) : ServiceDecision :=
  (decisionOf v).toOption.getD default

theorem optionalText_isOk {v : Option Json} (h : ∀ m, v = some m → m = .null ∨ ∃ text, m = .string text) :
    ∃ text, optionalText v = .ok text := by
  cases v
  case none => exact ⟨none, rfl⟩
  case some m =>
    cases h m rfl
    case inl h =>
      subst h
      exact ⟨none, rfl⟩
    case inr h =>
      have ⟨text, ht⟩ := h
      subst ht
      exact ⟨some text, rfl⟩

theorem decisionOf_eq {v : Json} (h : IsDecision v) : decisionOf v = .ok (decisionIn v) := by
  have ⟨ms, hv, hm⟩ := h
  subst hv
  have ⟨assetId, ha⟩ := optionalText_isOk <| hm "assetId" (by decide)
  have ⟨decision, hd⟩ := optionalText_isOk <| hm "decision" (by decide)
  have ⟨reason, hr⟩ := optionalText_isOk <| hm "reason" (by decide)
  simp only [decisionIn, decisionOf, ha, hd, hr]
  rfl

theorem mapM_decisionOf {vs : List Json} (h : ∀ v ∈ vs, IsDecision v) :
    vs.mapM decisionOf = .ok (vs.map decisionIn) := by
  induction vs
  case nil => rfl
  case cons v vs hi =>
    have hv := decisionOf_eq <| h v List.mem_cons_self
    have hs := hi fun w hw => h w <| List.mem_cons_of_mem v hw
    rw [List.mapM_cons, hv, hs]
    rfl

theorem ofJson_decisions {vs : List Json} (h : ∀ v ∈ vs, IsDecision v) :
    ofJson (.object [("decisions", .array vs)]) = .ok ⟨vs.map decisionIn, none⟩ := by
  have hd : decisionsOf ([("decisions", Json.array vs)].lookup "decisions") = .ok (vs.map decisionIn) :=
    mapM_decisionOf h
  rw [ofJson, hd]
  rfl

end Response

-- The principal and the questions that a request tells of.
def principalOf (payload : Json) : Json :=
  (payload.get? "principal").getD .null

def questionsOf (payload : Json) : List Json :=
  match payload.get? "queries" with
  | some (.array items) => items
  | _ => []

-- The answer of a service that decides every question of a request by itself.
def answerBy (ruling : (principal query : Json) → Json) (payload : Json) : Json :=
  .object [("decisions", .array <| (questionsOf payload).map <| ruling <| principalOf payload)]

namespace Client

variable {σ : Type} {client : Client σ} {ruling : (principal query : Json) → Json}

def AnsweredBy (client : Client σ) (ruling : (principal query : Json) → Json) : Prop :=
  ∀ a s, (client.transport.send a s).value = .ok (answerBy ruling a.payload)

-- What the service decides on a question of the client.
def decisionOn (client : Client σ) (ruling : (principal query : Json) → Json) (principal : String)
    (q : Query) : Json :=
  ruling (.ofMembers [("id", .string principal)]) (q.effective.toJson client.config.assetAttribute)

theorem answerBy_evaluationPayload (principal : String) (queries : List Query) :
    answerBy ruling (evaluationPayload client.config principal (queries.map Query.effective)) =
      .object [("decisions", .array <| queries.map <| client.decisionOn ruling principal)] := by
  have hq : questionsOf (evaluationPayload client.config principal (queries.map Query.effective)) =
      (queries.map Query.effective).map (·.toJson client.config.assetAttribute) := rfl
  rw [answerBy, hq, List.map_map, List.map_map]
  rfl

variable (call : Call) {principal : String} {queries : List Query}

-- The request behind any number of questions comes to the decisions on them, in their order.
theorem inquire_answered (hs : client.AnsweredBy ruling) (hv : client.config.isValid = true)
    (hp : isIdentifier principal = true) (hq : ∀ q ∈ queries, isIdentifier q.asset = true)
    (hd : ∀ q ∈ queries, Response.IsDecision (client.decisionOn ruling principal q)) (s : σ) :
    (client.inquire call (client.evaluationInquiry call principal queries) s).value =
      .ok ⟨queries.map fun q => Response.decisionIn (client.decisionOn ruling principal q), none⟩ := by
  have hc : (client.evaluationInquiry call principal queries).checks = .ok () :=
    (client.evaluationChecks_eq_ok_iff ..).mpr ⟨hp, by simpa using hq, hv⟩
  have ha := hs (client.attemptOf call .evaluations
    (evaluationPayload client.config principal (queries.map Query.effective))) s
  have ht : ¬IsTransient (client.transport.send (client.attemptOf call .evaluations
      (evaluationPayload client.config principal (queries.map Query.effective))) s).value := by
    rw [ha]
    exact id
  have ⟨hr, _, _⟩ := client.request_first_final call .evaluations _ s ht
  rw [inquire, hc]
  refine hr.trans ?_
  rw [ha, attemptOf, answerBy_evaluationPayload, reading, Response.ofJson_decisions (by simpa using hd),
    List.map_map]
  rfl

-- The decision on a question, read off what the service says of it.
def settle (client : Client σ) (ruling : (principal query : Json) → Json) (call : Call)
    (principal : String) (q : Query) : Decision :=
  .ofService principal q.asset (effectiveAction q.action) call <|
    Response.decisionIn <| client.decisionOn ruling principal q

theorem alignDecisions_map (f : Query → ServiceDecision) :
    alignDecisions call principal (queries.map Query.effective) (queries.map f) =
      queries.map fun q => .ofService principal q.asset (effectiveAction q.action) call (f q) := by
  induction queries
  case nil => rfl
  case cons q queries hi =>
    rw [List.map_cons, List.map_cons, List.map_cons, alignDecisions, hi]
    rfl

theorem evaluate_answered {q : Query} (hs : client.AnsweredBy ruling) (hv : client.config.isValid = true)
    (hp : isIdentifier principal = true) (hq : isIdentifier q.asset = true)
    (hd : Response.IsDecision (client.decisionOn ruling principal q)) (s : σ) :
    (client.evaluate call principal q.asset q.action s).value = client.settle ruling call principal q := by
  have h := client.evaluate_inquires call principal q.asset q.action
  have ha := inquire_answered call hs hv hp (List.forall_mem_singleton.mpr hq)
    (List.forall_mem_singleton.mpr hd) s
  rw [h.value, Run.map_value, ha]
  rfl

theorem evaluateBatch_answered (hs : client.AnsweredBy ruling) (hv : client.config.isValid = true)
    (hp : isIdentifier principal = true) (hq : ∀ q ∈ queries, isIdentifier q.asset = true)
    (hd : ∀ q ∈ queries, Response.IsDecision (client.decisionOn ruling principal q))
    (hn : queries ≠ []) (s : σ) :
    (client.evaluateBatch call principal queries s).value =
      queries.map (client.settle ruling call principal) := by
  have h := client.evaluateBatch_inquires call principal queries hn
  rw [h.value, Run.map_value, inquire_answered call hs hv hp hq hd s, batchDecisions, alignDecisions_map]
  rfl

-- Decisions on questions that are picked by their places are the decisions at these places.
theorem filterMap_getElem?_map {α β : Type} (f : α → β) (xs : List α) (places : List Nat) :
    (places.filterMap (xs[·]?)).map f = places.filterMap ((xs.map f)[·]?) := by
  simp [List.map_filterMap, List.getElem?_map]

-- What is decided on a question may depend on all that the service is told of the principal and of the
-- question, and on nothing else.
theorem evaluateBatch_refines (hs : client.AnsweredBy ruling) (hv : client.config.isValid = true)
    (hp : isIdentifier principal = true) (hq : ∀ q ∈ queries, isIdentifier q.asset = true)
    (hd : ∀ q ∈ queries, Response.IsDecision (client.decisionOn ruling principal q))
    (hn : queries ≠ []) (s : σ) :
    let batch := (client.evaluateBatch call principal queries s).value
    batch.length = queries.length ∧
      (∀ (i : Nat) (q : Query), queries[i]? = some q → ∀ (call' : Call) s',
        batch[i]? = some { (client.evaluate call' principal q.asset q.action s').value with call }) ∧
      ∀ (places : List Nat) (s' : σ), places.Perm (List.range queries.length) →
        (client.evaluateBatch call principal (places.filterMap (queries[·]?)) s').value =
          places.filterMap (batch[·]?) := by
  intro batch
  have hb : batch = queries.map (client.settle ruling call principal) :=
    evaluateBatch_answered call hs hv hp hq hd hn s
  refine ⟨by rw [hb, List.length_map], ?_, ?_⟩
  · intro i q hi call' s'
    have hm : q ∈ queries := List.mem_of_getElem? hi
    rw [hb, List.getElem?_map, hi, evaluate_answered _ hs hv hp (hq q hm) (hd q hm)]
    rfl
  · intro places s' hr
    have hm : ∀ q ∈ places.filterMap (queries[·]?), q ∈ queries := by
      intro q h
      have ⟨i, _, hi⟩ := List.mem_filterMap.mp h
      exact List.mem_of_getElem? hi
    have hne : places.filterMap (queries[·]?) ≠ [] := by
      have h0 : 0 < queries.length := List.length_pos_iff.mpr hn
      have hp : 0 ∈ places := hr.mem_iff.mpr <| List.mem_range.mpr h0
      exact List.ne_nil_of_mem <| List.mem_filterMap.mpr ⟨0, hp, List.getElem?_eq_getElem h0⟩
    rw [evaluateBatch_answered call hs hv hp (fun q h => hq q <| hm q h) (fun q h => hd q <| hm q h) hne, hb,
      filterMap_getElem?_map]

-- One asset is allowed and all others are denied: the second of two questions comes to its own decision.
theorem evaluateBatch_refines_mixed :
    let ruling : (principal query : Json) → Json := fun _ query =>
      match query.get? "assetId" with
      | some (.string "/bin/ls") => .object [("decision", .string "Allow")]
      | _ => .object [("decision", .string "Deny"), ("reason", .null), ("ttl", .nat 5)]
    let client : Client Unit :=
      ⟨{ apiUrl := "localhost", apiToken := "token" }, ⟨fun a => pure (.ok <| answerBy ruling a.payload)⟩⟩
    let call : Call := ⟨⟨"a"⟩, 1⟩
    let call' : Call := ⟨⟨"b"⟩, 2⟩
    let decisions :=
      (client.evaluateBatch call "alice" [⟨"/bin/ls", ""⟩, ⟨"/bin/su", "sudo"⟩] ()).value
    let alone := (client.evaluate call' "alice" "/bin/su" "sudo" ()).value
    alone.result = .denied ∧ decisions[1]? = some { alone with call } := by
  intro ruling client call call' decisions alone
  have hq : ∀ q ∈ ([⟨"/bin/ls", ""⟩, ⟨"/bin/su", "sudo"⟩] : List Query), isIdentifier q.asset = true := by
    decide +kernel
  have hd : ∀ q ∈ ([⟨"/bin/ls", ""⟩, ⟨"/bin/su", "sudo"⟩] : List Query),
      Response.IsDecision (client.decisionOn ruling "alice" q) := by
    simp only [List.forall_mem_cons]
    refine ⟨⟨_, rfl, ?_⟩, ⟨_, rfl, ?_⟩, by simp⟩
    · simp [Response.namedMembers, List.lookup_cons]
    · simp [Response.namedMembers, List.lookup_cons]
  have hs : client.AnsweredBy ruling := fun _ _ => rfl
  have hv : client.config.isValid = true := by decide +kernel
  have h := evaluateBatch_refines call hs hv (by decide +kernel) hq hd (by simp) ()
  exact ⟨by decide +kernel, h.right.left 1 _ rfl call' _⟩

end Client
end AccessControl
