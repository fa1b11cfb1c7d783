import AccessControl.Proofs.Checks

namespace AccessControl

namespace Result

theorem combined_eq_find? {rs : List Result} (h : rs ≠ []) :
    combined rs = (rs.find? (· ≠ .allowed)).getD .allowed := by
  cases rs
  case nil => contradiction
  case cons => rfl

theorem combined_eq_allowed_iff {rs : List Result} (h : rs ≠ []) :
    combined rs = .allowed ↔ ∀ i, i < rs.length → rs[i]? = some .allowed := by
  rw [combined_eq_find? h]
  cases hf : rs.find? (· ≠ .allowed)
  case none =>
    simp only [List.find?_eq_none] at hf
    simp only [Option.getD_none, true_iff]
    intro i hi
    have hr := hf rs[i] (List.getElem_mem hi)
    simp_all
  case some r =>
    have ⟨hr, i, hi, he, _⟩ := List.find?_eq_some_iff_getElem.mp hf
    simp only [Option.getD_some]
    constructor
    case mp =>
      intro h
      simp [h] at hr
    case mpr =>
      intro h
      have := h i hi
      simp_all

theorem combined_eq_denied_iff {rs : List Result} :
    combined rs = .denied ↔
      ∃ i : Nat, rs[i]? = some .denied ∧ ∀ j, j < i → rs[j]? = some .allowed := by
  by_cases h : rs = []
  case pos => simp [h, combined]
  case neg =>
    rw [combined_eq_find? h]
    constructor
    case mp =>
      intro hd
      cases hf : rs.find? (· ≠ .allowed) <;> rw [hf] at hd
      case none => contradiction
      case some r =>
        have ⟨_, i, hi, he, hb⟩ := List.find?_eq_some_iff_getElem.mp hf
        refine ⟨i, by simp_all, ?_⟩
        intro j hj
        have := hb j hj
        have : j < rs.length := by omega
        simp_all
    case mpr =>
      intro ⟨i, hi, hb⟩
      have ⟨hl, he⟩ := List.getElem?_eq_some_iff.mp hi
      have hf : rs.find? (· ≠ .allowed) = some .denied := by
        refine List.find?_eq_some_iff_getElem.mpr ⟨by simp, i, hl, he, ?_⟩
        intro j hj
        have hj' : j < rs.length := by omega
        have := hb j hj
        simp_all
      rw [hf]
      rfl

end Result

namespace Response

-- The word of the service on the question at a place, if it has one there.
def wordAt? (r : Response) (i : Nat) : Option String :=
  r.decisions[i]?.bind (·.decision)

-- What the service has for a question at a place comes to.
def resultAt (r : Response) (i : Nat) : Result :=
  match r.decisions[i]? with
  | some d => (Decision.judge (d.decision.getD "")).1
  | none => .error

theorem judge_eq_allowed_iff {word : String} : (Decision.judge word).1 = .allowed ↔ word = "Allow" := by
  unfold Decision.judge Decision.allowWord Decision.denyWord
  split
  case isTrue h => simp [h]
  case isFalse h => split <;> simp [h]

theorem judge_eq_denied_iff {word : String} : (Decision.judge word).1 = .denied ↔ word = "Deny" := by
  unfold Decision.judge Decision.allowWord Decision.denyWord
  split
  case isTrue h => simp [h]
  case isFalse h => split <;> simp_all

variable {r : Response} {i : Nat}

theorem resultAt_eq_allowed_iff : r.resultAt i = .allowed ↔ r.wordAt? i = some "Allow" := by
  unfold resultAt wordAt?
  cases r.decisions[i]?
  case none => simp
  case some d => cases h : d.decision <;> simp [judge_eq_allowed_iff, h]

theorem resultAt_eq_denied_iff : r.resultAt i = .denied ↔ r.wordAt? i = some "Deny" := by
  unfold resultAt wordAt?
  cases r.decisions[i]?
  case none => simp
  case some d => cases h : d.decision <;> simp [judge_eq_denied_iff, h]

end Response

namespace Client

variable (call : Call) (principal : String)

theorem alignDecisions_length (qs : List Query) (ds : List ServiceDecision) :
    (alignDecisions call principal qs ds).length = qs.length := by
  induction qs generalizing ds
  case nil => simp [alignDecisions]
  case cons q qs hi => cases ds <;> simp [alignDecisions, hi]

-- The decision at a place is made of the question and the answer there, and of nothing else.
theorem alignDecisions_getElem? (qs : List Query) (ds : List ServiceDecision) (i : Nat) :
    (alignDecisions call principal qs ds)[i]? = qs[i]?.map fun q =>
      match ds[i]? with
      | some d => .ofService principal q.asset q.action call d
      | none => .failed principal q.asset q.action call .error "no decision for query" := by
  induction qs generalizing ds i
  case nil => simp [alignDecisions]
  case cons q qs hi => cases ds <;> cases i <;> simp [alignDecisions, hi]

variable {qs : List Query}

theorem batchDecisions_length (v : Except AccessError Response) :
    (batchDecisions call principal qs v).length = qs.length := by
  cases v
  case error e => simp [batchDecisions]
  case ok r => exact alignDecisions_length ..

theorem batchDecisions_results_error (e : AccessError) :
    (batchDecisions call principal qs (.error e)).map (·.result) = qs.map fun _ => e.result := by
  rw [batchDecisions, List.map_map]
  rfl

theorem batchDecisions_results_ok (r : Response) (i : Nat) (h : i < qs.length) :
    ((batchDecisions call principal qs (.ok r)).map (·.result))[i]? = some (r.resultAt i) := by
  have hq : qs[i]? = some qs[i] := List.getElem?_eq_getElem h
  rw [List.getElem?_map, batchDecisions, alignDecisions_getElem?, hq, Response.resultAt]
  cases r.decisions[i]? <;> rfl

-- A lone question comes to the same result either way.
theorem singleDecision_result (q : Query) (v : Except AccessError Response) :
    [(singleDecision call principal q v).result] =
      (batchDecisions call principal [q] v).map (·.result) := by
  cases v
  case error e => rfl
  case ok r => cases h : r.decisions <;> simp [singleDecision, batchDecisions, alignDecisions, h,
    Decision.failed]

variable {v : Except AccessError Response}

theorem combinedResult_batch_error (e : AccessError) (h : qs ≠ []) :
    combinedResult (batchDecisions call principal qs (.error e)) = e.result := by
  have ⟨q, qs', hq⟩ := List.exists_cons_of_ne_nil h
  rw [combinedResult, batchDecisions_results_error, hq, List.map_cons, Result.combined_eq_find? (by simp)]
  have he : e.result ≠ .allowed := by
    intro h
    have := e.result_isError
    simp [h, Result.isError] at this
  simp [he]

theorem combinedResult_batch_eq_allowed_iff (h : qs ≠ []) :
    combinedResult (batchDecisions call principal qs v) = .allowed ↔
      ∃ r, v = .ok r ∧ ∀ i, i < qs.length → r.wordAt? i = some "Allow" := by
  have hn : (batchDecisions call principal qs v).map (·.result) ≠ [] := by
    rw [← List.length_pos_iff, List.length_map, batchDecisions_length]
    exact List.length_pos_iff.mpr h
  cases v
  case error e =>
    rw [combinedResult_batch_error call principal e h]
    have := e.result_isError
    constructor
    case mp => intro he; simp [he, Result.isError] at this
    case mpr => intro ⟨r, hr, _⟩; contradiction
  case ok r =>
    rw [combinedResult, Result.combined_eq_allowed_iff hn]
    simp only [List.length_map, batchDecisions_length, Except.ok.injEq, exists_eq_left']
    apply forall₂_congr
    intro i hi
    rw [batchDecisions_results_ok call principal r i hi, Option.some.injEq, Response.resultAt_eq_allowed_iff]

theorem combinedResult_batch_eq_denied_iff (h : qs ≠ []) :
    combinedResult (batchDecisions call principal qs v) = .denied ↔
      ∃ r, v = .ok r ∧ ∃ i, i < qs.length ∧ r.wordAt? i = some "Deny" ∧
        ∀ j, j < i → r.wordAt? j = some "Allow" := by
  cases v
  case error e =>
    rw [combinedResult_batch_error call principal e h]
    have := e.result_isError
    constructor
    case mp => intro he; simp [he, Result.isError] at this
    case mpr => intro ⟨r, hr, _⟩; contradiction
  case ok r =>
    rw [combinedResult, Result.combined_eq_denied_iff]
    simp only [Except.ok.injEq, exists_eq_left']
    apply exists_congr
    intro i
    have hr (j : Nat) (hj : j < qs.length) := batchDecisions_results_ok call principal r j hj
    constructor
    case mp =>
      intro ⟨hd, hb⟩
      have ⟨hl, _⟩ := List.getElem?_eq_some_iff.mp hd
      rw [List.length_map, batchDecisions_length] at hl
      rw [hr i hl, Option.some.injEq, Response.resultAt_eq_denied_iff] at hd
      refine ⟨hl, hd, ?_⟩
      intro j hj
      have ha := hb j hj
      rwa [hr j (by omega), Option.some.injEq, Response.resultAt_eq_allowed_iff] at ha
    case mpr =>
      intro ⟨hl, hd, hb⟩
      rw [hr i hl, Response.resultAt_eq_denied_iff.mpr hd]
      refine ⟨rfl, ?_⟩
      intro j hj
      rw [hr j (by omega), Response.resultAt_eq_allowed_iff.mpr (hb j hj)]

end Client
end AccessControl
