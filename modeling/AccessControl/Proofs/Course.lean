import AccessControl.Proofs.Operation
import AccessControl.Proofs.Parallel

namespace AccessControl

open Effect

def Config.recordedAll (c : Config) (events : List Log.Event) : List Effect :=
  events.flatMap c.recorded

variable {σ : Type}

theorem Config.log_apply (c : Config) (level : Log.Level) (name : String) (call : Call) (message : String)
    (s : σ) : c.log level name call message s = ⟨(), c.recorded (call.event level name message), s⟩ := by
  unfold log recorded Call.event
  split <;> rfl

theorem Config.attempts_recordedAll (c : Config) (events : List Log.Event) :
    Effect.attempts (c.recordedAll events) = [] := by
  refine List.filterMap_eq_nil_iff.mpr fun e he => ?_
  have ⟨event, _, hr⟩ := List.mem_flatMap.mp he
  unfold recorded at hr
  split at hr
  case isTrue => exact List.mem_singleton.mp hr ▸ rfl
  case isFalse => contradiction

-- The record of a finished decision.
def Decision.event (d : Decision) : Log.Event :=
  let about := "principal=" ++ d.principal ++ " asset=" ++ d.asset ++ " action=" ++ d.action
  match if d.isError then d.errorMessage else none with
  | some message =>
    d.call.event .error "access_decision_failed" (about ++ " result=" ++ d.result.name ++ ": " ++ message)
  | none =>
    d.call.event .info "access_decision" (about ++ " decision=" ++ d.word ++ " reason=" ++ d.reason)

namespace Client

variable (client : Client σ) (call : Call)

theorem record_apply (d : Decision) (s : σ) : client.record d s = ⟨(), client.config.recorded d.event, s⟩ := by
  unfold record Decision.event
  cases if d.isError then d.errorMessage else none <;> simp only [Config.log_apply]

theorem forM_record_apply (ds : List Decision) (s : σ) :
    forM ds client.record s = ⟨(), client.config.recordedAll (ds.map Decision.event), s⟩ := by
  induction ds
  case nil => rfl
  case cons d ds hi => simp [List.forM_cons, Run.bind_apply, hi, record_apply, Config.recordedAll]

def searchAbout (principal action : String) : String :=
  "principal=" ++ principal ++ " action=" ++ effectiveAction action

def opening : Operation → List Log.Event
  | .validate => []
  | .evaluate principal asset action | .check principal asset action =>
    [call.event .debug "evaluate_access" <|
      "principal=" ++ principal ++ " asset=" ++ asset ++ " action=" ++ effectiveAction action]
  | .batch principal queries =>
    [call.event .debug "evaluate_access_batch" <|
      "principal=" ++ principal ++ " queries=" ++ toString queries.length]
  | .assets principal action | .search principal action _ _ =>
    [call.event .debug "asset_search" (searchAbout principal action)]

-- The record of a search whose request came to the given outcome.
def searchEvent (principal action : String) : Except AccessError Response → Log.Event
  | .ok response =>
    call.event .info "asset_search_completed" <| searchAbout principal action ++ " assets=" ++
      toString (SearchResult.ofResponse principal (effectiveAction action) call response).assets.length
  | .error e =>
    call.event .error "asset_search_failed" (searchAbout principal action ++ ": " ++ e.description)

def closing (r : Except AccessError Response) : Operation → List Log.Event
  | .validate => []
  | .evaluate principal asset action | .check principal asset action =>
    [(singleDecision call principal ⟨asset, effectiveAction action⟩ r).event]
  | .batch principal queries =>
    (batchDecisions call principal (queries.map Query.effective) r).map Decision.event
  | .assets principal action | .search principal action _ _ => [searchEvent call principal action r]

variable {client call} {q : Inquiry} {op : Operation}

theorem evaluate_course (principal asset action : String) (s : σ) :
    client.evaluate call principal asset action s =
      let o := client.inquire call (client.evaluationInquiry call principal [⟨asset, action⟩]) s
      let d := singleDecision call principal ⟨asset, effectiveAction action⟩ o.value
      ⟨d, client.config.recordedAll (opening call (.evaluate principal asset action)) ++
        (o.effects ++ client.config.recordedAll [d.event]), o.state⟩ := by
  simp [evaluate, Run.bind_apply, Config.log_apply, record_apply, inquire, evaluationInquiry, opening,
    Config.recordedAll, Query.effective]

theorem evaluateBatch_course (principal : String) {queries : List Query} (h : queries ≠ []) (s : σ) :
    client.evaluateBatch call principal queries s =
      let o := client.inquire call (client.evaluationInquiry call principal queries) s
      let ds := batchDecisions call principal (queries.map Query.effective) o.value
      ⟨ds, client.config.recordedAll (opening call (.batch principal queries)) ++
        (o.effects ++ client.config.recordedAll (ds.map Decision.event)), o.state⟩ := by
  simp [evaluateBatch, Run.bind_apply, Config.log_apply, forM_record_apply, inquire, evaluationInquiry, opening,
    Config.recordedAll, Function.comp_def, Query.effective, h]

theorem searchWith_course (principal action : String) (page : Option Page) (s : σ) :
    client.searchWith call principal action page s =
      let o := client.inquire call (client.searchInquiry call principal action page) s
      ⟨searchOutcome call principal action o.value,
        client.config.recordedAll [call.event .debug "asset_search" (searchAbout principal action)] ++
          (o.effects ++ client.config.recordedAll [searchEvent call principal action o.value]), o.state⟩ := by
  unfold searchWith inquire searchInquiry
  rw [pure_bind, searchChecks_eq]
  cases h : (client.request call (client.evaluationChecks call principal []) .search
      (searchPayload principal (effectiveAction action) page) s).value <;>
    simp [Run.bind_apply, Config.log_apply, searchOutcome, searchEvent, searchAbout, Config.recordedAll, h]

-- An operation with an inquiry is its opening, the request, and its closing.
theorem perform_course (h : client.inquiry? call op = some q) (s : σ) :
    client.perform call op s =
      let o := client.inquire call q s
      ⟨client.answerOn call o.value op, client.config.recordedAll (opening call op) ++
        (o.effects ++ client.config.recordedAll (closing call o.value op)), o.state⟩ := by
  cases op
  case validate => contradiction
  case evaluate principal asset action =>
    cases h
    simp [perform, Run.map, evaluate_course, answerOn, closing, opening]
  case check principal asset action =>
    cases h
    simp [perform, check, Run.map, evaluate_course, answerOn, closing, opening]
  case batch principal queries =>
    have hn : queries ≠ [] := by
      intro hn
      simp [inquiry?, hn] at h
    simp only [inquiry?, if_neg hn, Option.some.injEq] at h
    subst h
    simp [perform, Run.map, evaluateBatch_course principal hn, answerOn, closing]
  case assets principal action =>
    cases h
    simp [perform, assets, Run.map, searchWith_course, answerOn, searchOutcome_assets, closing, opening]
  case search principal action token size =>
    cases h
    simp [perform, search, Run.map, searchWith_course, answerOn, closing, opening]

-- One without is its opening; its answer does not depend on what a request would have come to.
theorem perform_uninquired (h : client.inquiry? call op = none) (r : Except AccessError Response) (s : σ) :
    client.perform call op s =
      ⟨client.answerOn call r op, client.config.recordedAll (opening call op), s⟩ := by
  cases op
  case validate => rfl
  case batch principal queries =>
    have hn : queries = [] := by simpa [inquiry?] using h
    cases r <;>
      simp [perform, Run.map, evaluateBatch, Config.log_apply, opening, Config.recordedAll, answerOn,
        batchDecisions, alignDecisions, hn]
  all_goals contradiction

end Client
end AccessControl
