import AccessControl.Proofs.Coherence
import AccessControl.Proofs.Dispatch

namespace AccessControl

open Effect

-- The names of the records that end a decision or a search.
def Log.Event.endings : List String :=
  ["access_decision", "access_decision_failed", "asset_search_completed", "asset_search_failed"]

-- A record made on the way: it ends nothing.
structure Log.Event.IsInterim (e : Log.Event) : Prop where
  level : e.level = .debug ∨ e.level = .warn
  name : e.name ∉ endings

-- The record ends the decision: with what failed, or with the answer.
inductive Decision.IsToldBy (d : Decision) : Log.Event → Prop
  | failed {message : String} (he : d.result.isError = true) (hm : d.errorMessage = some message) :
    IsToldBy d <| d.call.event .error "access_decision_failed" <|
      "principal=" ++ d.principal ++ " asset=" ++ d.asset ++ " action=" ++ d.action ++ " result=" ++
        d.result.name ++ ": " ++ message
  | answered (he : d.result.isError = false) :
    IsToldBy d <| d.call.event .info "access_decision" <|
      "principal=" ++ d.principal ++ " asset=" ++ d.asset ++ " action=" ++ d.action ++ " decision=" ++
        d.word ++ " reason=" ++ d.reason

inductive SearchResult.IsToldBy (call : Call) (r : SearchResult) : Log.Event → Prop
  | failed {kind : AccessError.Kind} {message : String} (he : r.result.isError = true)
      (hr : r.result = kind.result) (hm : r.errorMessage = some message) :
    IsToldBy call r <| call.event .error "asset_search_failed" <|
      "principal=" ++ r.principal ++ " action=" ++ r.action ++ ": " ++ kind.title ++ ": " ++ message
  | completed (he : r.result.isError = false) :
    IsToldBy call r <| call.event .info "asset_search_completed" <|
      "principal=" ++ r.principal ++ " action=" ++ r.action ++ " assets=" ++ toString r.assets.length

-- One record for every decision that failed, and with `access` for every other one, in their order.
structure Decision.AreTold (access : Bool) (principal : String) (queries : List Query) (ds : List Decision)
    (told : List Log.Event) : Prop where
  answers : List.Forall₂ (fun q d => d.Answers principal q) (queries.map Query.effective) ds
  records : List.Forall₂ Decision.IsToldBy (ds.filter fun d => d.result.isError || access) told

structure SearchResult.IsTold (access : Bool) (call : Call) (principal action : String) (r : SearchResult)
    (told : List Log.Event) : Prop where
  coherent : r.IsCoherent
  principal : r.principal = principal
  action : r.action = effectiveAction action
  records : List.Forall₂ (SearchResult.IsToldBy call) ([r].filter fun r => r.result.isError || access) told

-- The records that end an operation are those of its answer. A coarse answer stands for the decision or
-- the search that it was taken from.
inductive Answer.IsToldBy (access : Bool) (call : Call) : Operation → Answer → List Log.Event → Prop
  | validate {r : Result} : IsToldBy access call .validate (.result r) []
  | evaluate {principal asset action : String} {d : Decision} {told : List Log.Event}
      (h : Decision.AreTold access principal [⟨asset, action⟩] [d] told) :
    IsToldBy access call (.evaluate principal asset action) (.decision d) told
  | check {principal asset action : String} {d : Decision} {told : List Log.Event}
      (h : Decision.AreTold access principal [⟨asset, action⟩] [d] told) :
    IsToldBy access call (.check principal asset action) (.result d.result) told
  | batch {principal : String} {queries : List Query} {ds : List Decision} {told : List Log.Event}
      (h : Decision.AreTold access principal queries ds told) :
    IsToldBy access call (.batch principal queries) (.decisions ds) told
  | assets {principal action : String} {r : SearchResult} {told : List Log.Event}
      (h : r.IsTold access call principal action told) :
    IsToldBy access call (.assets principal action) (.lines r.assets) told
  | search {principal action : String} {token : Option String} {size : UInt32} {r : SearchResult}
      {told : List Log.Event} (h : r.IsTold access call principal action told) :
    IsToldBy access call (.search principal action token size) (.search r) told

-- A transport that follows a script, or the one that speaks HTTP, to whatever service.
inductive Transport.IsSupplied : {σ : Type} → Transport σ → Prop
  | outcomes : IsSupplied scripted
  | http {σ : Type} {service : Service σ} (file : Volume.Reader) (h : service.Quiet) :
    IsSupplied (https file service)

-- The run records nothing that ends anything.
structure Run.Interim (r : Run σ α) : Prop where
  records : ∀ s, ∀ e ∈ Effect.records (r s).effects, e.IsInterim

namespace Run.Interim

variable {σ α β : Type}

theorem of_unrecorded {r : Run σ α} (h : ∀ s, Effect.records (r s).effects = []) : r.Interim where
  records s := by simp [h s]

theorem pure (x : α) : (Pure.pure x : Run σ α).Interim :=
  of_unrecorded fun _ => rfl

theorem bind {r : Run σ α} {k : α → Run σ β} (hr : r.Interim) (hk : ∀ x, (k x).Interim) :
    (r >>= k).Interim where
  records s := by
    rw [Run.bind_effects, Effect.records, List.filterMap_append]
    exact List.forall_mem_append.mpr ⟨hr.records s, (hk _).records _⟩

theorem ite {p : Prop} [Decidable p] {r₁ r₂ : Run σ α} (h₁ : r₁.Interim) (h₂ : r₂.Interim) :
    (if p then r₁ else r₂).Interim := by
  split
  case isTrue => exact h₁
  case isFalse => exact h₂

theorem emit {e : Log.Event} (h : e.IsInterim) : (Run.emit (.logged e) : Run σ Unit).Interim where
  records _ := List.forall_mem_singleton.mpr h

theorem warned {p : Prop} [Decidable p] {e : Log.Event} {r : Run σ α} (he : e.IsInterim) (h : r.Interim) :
    (if p then Run.emit (.logged e) >>= fun _ => r else r).Interim :=
  ite (bind (emit he) fun _ => h) h

theorem log_bind {c : Config} {level : Log.Level} {name : String} {call : Call} {message : String}
    {r : Run σ α} (hl : level = .debug ∨ level = .warn) (hn : name ∉ Log.Event.endings) (h : r.Interim) :
    (c.log level name call message >>= fun _ => r).Interim := by
  refine bind ?_ fun _ => h
  unfold Config.log
  exact ite (emit { level := hl, name := hn }) (pure ())

end Run.Interim

variable {σ : Type}

theorem RetryPolicy.runFrom_interim (p : RetryPolicy) (config : Config) (call : Call)
    {attempt : Nat → Run σ (Except AccessError α)} (ha : ∀ n, (attempt n).Interim) (left number : Nat) :
    (p.runFrom config call attempt left number).Interim := by
  induction left generalizing number
  case zero => exact .pure _
  case succ left hi =>
    refine .bind ?pause fun _ => .bind (ha number) fun r => ?_
    case pause =>
      exact .ite (.log_bind (by decide) (by decide) (.of_unrecorded fun _ => rfl)) (.pure _)
    cases r
    case ok v => exact .pure _
    case error e =>
      exact .ite (.log_bind (by decide) (by decide) <| .ite (.pure _) (hi (number + 1))) (.pure _)

namespace Transport

variable {service : Service σ}

theorem readResponse_interim (a : Attempt) (r : Http.Response) :
    (readResponse a r : Run σ (Except AccessError Json)).Interim := by
  unfold readResponse
  cases r.read maxResponseBytes
  case error e => exact .pure _
  case ok body => exact .log_bind (by decide) (by decide) <| .ite (.pure _) (.pure _)

theorem deliver_interim (h : service.Quiet) (a : Attempt) (url : Http.Url) :
    (deliver service a url).Interim := by
  refine .bind (.of_unrecorded fun s => h.filterMap_eq_nil (fun _ => rfl) url _ s) fun d => ?_
  cases d
  case response r => exact readResponse_interim a r
  all_goals exact .pure _

theorem dispatch_interim (h : service.Quiet) (a : Attempt) : (dispatch service a).Interim := by
  refine .log_bind (by decide) (by decide) ?_
  cases Http.Url.read? a.url
  case none => exact .pure _
  case some url =>
    cases Http.isHeaderText a.config.apiToken
    case false => exact .pure _
    case true => exact .ite (.pure _) <| .ite (.pure _) <| deliver_interim h a url

theorem https_interim (file : Volume.Reader) (h : service.Quiet) (a : Attempt) :
    ((https file service).send a).Interim := by
  rw [https_send]
  refine .warned { level := .inr rfl, name := by simp [Attempt.tlsWarning, Call.event, Log.Event.endings] } ?_
  cases checkSender file a.config a.call.requestId
  case error e => exact .pure _
  case ok =>
    refine .warned ?_ (dispatch_interim h a)
    exact { level := .inr rfl, name := by simp [Attempt.cleartextWarning, Call.event, Log.Event.endings] }

theorem IsSupplied.interim {transport : Transport σ} (h : transport.IsSupplied) (a : Attempt) :
    (transport.send a).Interim := by
  cases h
  case outcomes => exact .of_unrecorded fun _ => rfl
  case http file service hq => exact https_interim file hq a

end Transport

namespace Config

variable (c : Config)

theorem recordedAll_eq (events : List Log.Event) :
    c.recordedAll events = (events.filter (c.logs ·.level)).map .logged := by
  induction events
  case nil => rfl
  case cons e events hi =>
    rw [recordedAll, List.flatMap_cons, ← recordedAll, hi, List.filter_cons, recorded]
    split <;> rfl

end Config

namespace Decision

variable {d : Decision} (h : d.IsCoherent)

include h

-- A decision that failed has a message, and no other one has: so the message tells which record it gets.
theorem isToldBy_event : d.IsToldBy d.event := by
  have hm := h.message
  unfold event isError
  cases he : d.result.isError
  case false => exact .answered he
  case true =>
    have ⟨message, hs⟩ := Option.isSome_iff_exists.mp (hm.mpr he)
    simp only [if_true, hs]
    exact .failed he hs

theorem event_wanted (c : Config) : c.logs d.event.level = (d.result.isError || c.enableAccessLogging) := by
  have ht := isToldBy_event h
  generalize d.event = e at ht
  cases ht
  case failed he _ => rw [he]; rfl
  case answered he => rw [he]; rfl

omit h

theorem areTold (c : Config) {principal : String} {queries : List Query} {ds : List Decision}
    (ha : List.Forall₂ (fun q d => d.Answers principal q) (queries.map Query.effective) ds) :
    AreTold c.enableAccessLogging principal queries ds ((ds.map event).filter (c.logs ·.level)) where
  answers := ha
  records := by
    have hc : ∀ d ∈ ds, d.IsCoherent :=
      ((List.forall₂_and_left _ _).mp <| ha.flip.imp fun _ _ h => ⟨h.toIsCoherent, h⟩).left
    have hf : (ds.map event).filter (c.logs ·.level) =
        (ds.filter fun d => d.result.isError || c.enableAccessLogging).map event := by
      rw [List.filter_map]
      exact congrArg _ <| List.filter_congr fun d hd => event_wanted (hc d hd) c
    rw [hf]
    refine List.forall₂_map_right_iff.mpr <| List.forall₂_same.mpr fun d hd => ?_
    exact isToldBy_event <| hc d <| List.mem_of_mem_filter hd

end Decision

namespace Client

variable (call : Call) (principal action : String)

theorem isToldBy_searchEvent (r : Except AccessError Response) :
    (searchOutcome call principal action r).IsToldBy call (searchEvent call principal action r) := by
  cases r
  case error e =>
    have ht : searchEvent call principal action (.error e) =
        call.event .error "asset_search_failed" ("principal=" ++ principal ++ " action=" ++
          effectiveAction action ++ ": " ++ e.kind.title ++ ": " ++ e.message) := by
      simp [searchEvent, searchAbout, AccessError.description, String.append_assoc]
    rw [ht]
    exact .failed (show e.result.isError = true from e.result_isError) rfl rfl
  case ok response => exact .completed rfl

theorem searchEvent_wanted (c : Config) (r : Except AccessError Response) :
    c.logs (searchEvent call principal action r).level =
      ((searchOutcome call principal action r).result.isError || c.enableAccessLogging) := by
  cases r
  case error e =>
    have he : (searchOutcome call principal action (.error e)).result.isError = true := e.result_isError
    rw [he]
    rfl
  case ok response => rfl

theorem searchOutcome_isTold (c : Config) (r : Except AccessError Response) :
    (searchOutcome call principal action r).IsTold c.enableAccessLogging call principal action
      ([searchEvent call principal action r].filter (c.logs ·.level)) where
  coherent := searchOutcome_isCoherent call principal action r
  principal := by cases r <;> rfl
  action := by cases r <;> rfl
  records := by
    have ht := isToldBy_searchEvent call principal action r
    rw [List.filter_singleton, List.filter_singleton, searchEvent_wanted]
    cases (searchOutcome call principal action r).result.isError || c.enableAccessLogging
    case true => exact .cons ht .nil
    case false => exact .nil

variable {client : Client σ} {call}

theorem inquire_interim (h : client.transport.IsSupplied) (q : Inquiry) : (client.inquire call q).Interim := by
  unfold inquire request execute RetryPolicy.run
  cases q.checks
  case error e => exact .pure _
  case ok =>
    refine .bind (RetryPolicy.runFrom_interim _ _ _ (fun _ => ?_) ..) fun r => ?_
    · exact .bind (.of_unrecorded fun _ => rfl) fun _ => h.interim _
    · cases r <;> exact .pure _

theorem opening_interim (call : Call) (op : Operation) : ∀ e ∈ opening call op, e.IsInterim := by
  cases op <;> simp [opening]
  all_goals exact { level := .inl rfl, name := by simp [Call.event, Log.Event.endings] }

theorem answerOn_isToldBy (r : Except AccessError Response) (op : Operation) :
    (client.answerOn call r op).IsToldBy client.config.enableAccessLogging call op
      ((closing call r op).filter (client.config.logs ·.level)) := by
  cases op
  case validate => exact .validate
  case evaluate principal asset action =>
    exact .evaluate <| Decision.areTold _ <| .cons (singleDecision_answers ..) .nil
  case check principal asset action =>
    exact .check <| Decision.areTold _ <| .cons (singleDecision_answers ..) .nil
  case batch principal queries => exact .batch <| Decision.areTold _ <| batchDecisions_answers ..
  case assets principal action => exact .assets <| searchOutcome_isTold ..
  case search principal action token size => exact .search <| searchOutcome_isTold ..

-- Nothing is left to be told where nothing was asked.
theorem closing_uninquired {op : Operation} (h : client.inquiry? call op = none) (r : Except AccessError Response) :
    closing call r op = [] := by
  cases op
  case validate => rfl
  case batch principal queries =>
    have hn : queries = [] := by simpa [inquiry?] using h
    cases r <;> simp [closing, batchDecisions, alignDecisions, hn]
  all_goals contradiction

-- After all attempts there is one record for every decision, in the order of the questions, and one for a
-- search.
theorem perform_concludes (h : client.transport.IsSupplied) (call : Call) (op : Operation) (s : σ) :
    let o := client.perform call op s
    ∃ interim told, o.effects = interim ++ told.map .logged ∧ (∀ e ∈ records interim, e.IsInterim) ∧
      o.value.IsToldBy client.config.enableAccessLogging call op told := by
  intro o
  have ho : ∀ e ∈ records (client.config.recordedAll (opening call op)), e.IsInterim := by
    intro e he
    rw [Config.recordedAll_eq, records, List.filterMap_map] at he
    obtain ⟨event, hm, hr⟩ := List.mem_filterMap.mp he
    cases hr
    exact opening_interim call op _ (List.mem_of_mem_filter hm)
  have ht (r : Except AccessError Response) : (client.answerOn call r op).IsToldBy _ call op _ :=
    answerOn_isToldBy r op
  cases hq : client.inquiry? call op
  case none =>
    have hp : o = _ := perform_uninquired hq (.error default) s
    have hc := closing_uninquired hq (.error default)
    refine ⟨client.config.recordedAll (opening call op), [], by simp [hp], ho, ?_⟩
    simpa [hp, hc] using ht (.error default)
  case some q =>
    have hp : o = _ := perform_course hq s
    have hv : o.value = client.answerOn call (client.inquire call q s).value op := congrArg Outcome.value hp
    refine ⟨client.config.recordedAll (opening call op) ++ (client.inquire call q s).effects, _, ?_, ?_,
      hv ▸ ht (client.inquire call q s).value⟩
    · simp only [hp, Config.recordedAll_eq, List.append_assoc]
    · rw [records, List.filterMap_append]
      exact List.forall_mem_append.mpr ⟨ho, (inquire_interim h q).records s⟩

-- A batch answered in part, at the second attempt: two of its three decisions failed, and these are told.
theorem perform_concludes_partly :
    let config : Config := { apiUrl := "http://127.0.0.1:18080", apiToken := "token", retryCount := 1 }
    let client : Client Script := ⟨config, .scripted⟩
    let decisions := [Json.object [("decision", .string "Allow")], .object [("decision", .string "allow")]]
    let script : Script := [.failure .timedOut, .success <| .object [("decisions", .array decisions)]]
    let op : Operation := .batch "alice" [⟨"/bin/ls", ""⟩, ⟨"/bin/su", ""⟩, ⟨"/bin/id", ""⟩]
    let call : Call := ⟨⟨"r"⟩, 0⟩
    let o := client.perform call op script
    client.transport.IsSupplied ∧ (attempts o.effects).length = 2 ∧
      ∃ interim, ∃ told : List Log.Event, o.effects = interim ++ told.map .logged ∧
        (∀ e ∈ records interim, e.IsInterim) ∧ told.length = 2 ∧ o.value.IsToldBy false call op told := by
  intro config client decisions script op call o
  have hs : client.transport.IsSupplied := .outcomes
  have ⟨interim, told, he, hi, ht⟩ := perform_concludes hs call op script
  refine ⟨hs, by decide +kernel, interim, told, he, hi, ?_, ht⟩
  have hb : Answer.IsToldBy false _ (.batch "alice" _)
      (.decisions (client.evaluateBatch call "alice" _ script).value) told := ht
  cases hb
  case batch h =>
    rw [← h.records.length_eq]
    decide +kernel

example :
    let config : Config := { apiUrl := "localhost", apiToken := "token", enableAccessLogging := true }
    let decisions := [Json.object [("decision", .string "Allow")], .object [("decision", .string "allow")]]
    let call : Call := ⟨⟨"r"⟩, 0⟩
    let o := perform ⟨config, .scripted⟩ call (.batch "alice" [⟨"ls", ""⟩, ⟨"su", ""⟩, ⟨"id", ""⟩])
      [.success <| .object [("decisions", .array decisions)]]
    (records o.effects).map (fun e => (e.name, e.message)) =
      [("access_decision", "principal=alice asset=ls action=execute decision=Allow reason="),
        ("access_decision_failed",
          "principal=alice asset=su action=execute result=ERROR: unknown decision: allow"),
        ("access_decision_failed",
          "principal=alice asset=id action=execute result=ERROR: no decision for query")] := by
  decide +kernel

end Client
end AccessControl
