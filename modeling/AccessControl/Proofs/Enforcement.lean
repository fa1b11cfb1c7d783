import AccessControl.Proofs.Coherence
import AccessControl.Proofs.ExitStatus
import AccessControl.Proofs.Printed

namespace AccessControl.CommandLine

open Json (document? members? items? string? member? printed IsGap)

-- What is read of a printed decision.
structure Shown where
  asset : String
  result : String
  word : String
deriving DecidableEq, Repr

namespace Shown

def ofText? (text : Bytes) : Option Shown := do
  let asset ← (member? "asset_id" text).bind string?
  let result ← (member? "result" text).bind string?
  let word ← (member? "decision" text).bind string?
  return { asset, result, word }

-- Only these two results are decisions.
def verdict (d : Shown) : Verdict :=
  if d.result = "ALLOWED" then .accept
  else if d.result = "DENIED" then .reject
  else .error

-- The verdict of the first decision that does not allow, if there is one.
def combinedVerdict (ds : List Shown) : Verdict :=
  match ds.find? (·.result ≠ "ALLOWED") with
  | some d => d.verdict
  | none => if ds.isEmpty then .error else .accept

end Shown

def verdictOfName? (name : String) : Option Verdict :=
  [Verdict.accept, .reject, .error].find? (·.name = name)

-- What a check has printed: its verdict, and the decisions that it rests on.
def shownCheck? (output : Bytes) : Option (Verdict × List Shown) := do
  let verdict ← ((member? "verdict" output).bind string?).bind verdictOfName?
  let decisions ← (member? "decisions" output).bind items?
  return (verdict, ← decisions.mapM Shown.ofText?)

-- What an evaluation has printed: a decision by itself, or a list of them.
def shownDecisions? (output : Bytes) : Option (List Shown) :=
  if (members? output).isSome then (Shown.ofText? output).map fun d => [d]
  else do (← items? output).mapM Shown.ofText?

-- The exit status goes with the decisions, and is zero only if there are some and all of them allow.
structure Enforces (status : UInt8) (ds : List Shown) : Prop where
  recomputed : status = (Shown.combinedVerdict ds).exitStatus
  accepted : status = 0 ↔ ds ≠ [] ∧ ∀ d ∈ ds, d.result = "ALLOWED" ∧ d.word = "Allow"

-- The output of a check: one document, whose verdict is that of its decisions and goes with the exit status.
structure CheckShows (output : Bytes) (status : UInt8) : Prop where
  document : (document? output).isSome = true
  shown : ∃ verdict ds, shownCheck? output = some (verdict, ds) ∧ verdict = Shown.combinedVerdict ds ∧
    status = verdict.exitStatus ∧ Enforces status ds

-- The output of an evaluation of these assets: one document, which is an object exactly if there is one asset,
-- with the decisions on the assets in their order.
structure EvaluationShows (assets : List String) (output : Bytes) (status : UInt8) : Prop where
  document : (document? output).isSome = true
  alone : (members? output).isSome = true ↔ assets.length = 1
  shown : ∃ ds, shownDecisions? output = some ds ∧ ds.map (·.asset) = assets ∧ Enforces status ds

end AccessControl.CommandLine

namespace AccessControl

open CommandLine Json

theorem Result.name_eq_allowed_iff {r : Result} : r.name = "ALLOWED" ↔ r = .allowed := by
  cases r <;> decide

theorem Verdict.exitStatus_eq_zero_iff {v : Verdict} : v.exitStatus = 0 ↔ v = .accept := by
  cases v <;> decide

def Decision.shown (d : Decision) : Shown where
  asset := d.asset
  result := d.result.name
  word := d.word

theorem Decision.shown_verdict (d : Decision) : d.shown.verdict = d.verdict := by
  show (if d.result.name = "ALLOWED" then _ else if d.result.name = "DENIED" then _ else _) = d.result.verdict
  cases d.result <;> rfl

theorem combinedVerdict_shown (ds : List Decision) :
    Shown.combinedVerdict (ds.map (·.shown)) = (combinedResult ds).verdict := by
  have hs : (ds.map (·.shown)).find? (·.result ≠ "ALLOWED") =
      (ds.find? (·.result ≠ .allowed)).map (·.shown) := by
    have hp : (fun d : Shown => decide (d.result ≠ "ALLOWED")) ∘ Decision.shown =
        fun d => decide (d.result ≠ .allowed) :=
      funext fun d => decide_eq_decide.mpr <| not_congr Result.name_eq_allowed_iff
    rw [List.find?_map, hp]
  have hr : (ds.map (·.result)).find? (· ≠ .allowed) = (ds.find? (·.result ≠ .allowed)).map (·.result) :=
    List.find?_map ..
  unfold Shown.combinedVerdict
  rw [hs]
  cases ds
  case nil => rfl
  case cons d ds =>
    rw [combinedResult, Result.combined_eq_find? (by simp), hr]
    cases (d :: ds).find? (·.result ≠ .allowed)
    case none => rfl
    case some d => exact d.shown_verdict

namespace CommandLine

theorem enforces_shown {ds : List Decision} (h : ∀ d ∈ ds, d.IsCoherent) :
    Enforces (combinedResult ds).verdict.exitStatus (ds.map (·.shown)) where
  recomputed := by rw [combinedVerdict_shown]
  accepted := by
    rw [Verdict.exitStatus_eq_zero_iff, Result.verdict_eq_accept_iff, combinedResult_eq_allowed_iff]
    simp only [ne_eq, List.map_eq_nil_iff, List.forall_mem_map]
    refine and_congr_right fun _ => forall₂_congr fun d hd => ?_
    show _ ↔ d.result.name = "ALLOWED" ∧ d.word = "Allow"
    rw [Result.name_eq_allowed_iff, ← (h d hd).allowed, and_self]

section Output

variable {after : Bytes} (ha : IsGap after) (level : Nat)
include ha

theorem ofText?_printed (d : Decision) : Shown.ofText? (printed level d.toJson ++ after) = some d.shown := by
  have hi : d.toJson.get? "asset_id" = some (.string d.asset) := rfl
  have hr : d.toJson.get? "result" = some (.string d.result.name) := rfl
  have hw : d.toJson.get? "decision" = some (.string d.word) := rfl
  rw [Shown.ofText?, member?_string ha level hi, member?_string ha level hr, member?_string ha level hw]
  rfl

end Output

theorem mapM_ofText?_printed (level : Nat) (ds : List Decision) :
    ((ds.map (·.toJson)).map (printed level)).mapM Shown.ofText? = some (ds.map (·.shown)) := by
  induction ds
  case nil => rfl
  case cons d ds hi =>
    have hd := ofText?_printed isGap_nil level d
    rw [List.append_nil] at hd
    simp only [List.map_cons, List.mapM_cons, hd, hi]
    rfl

section Output

variable {after : Bytes} (ha : IsGap after)
include ha

theorem shownCheck?_printed (c : Host.PolicyCheck) :
    shownCheck? (printed 0 c.toJson ++ after) = some (c.verdict, c.decisions.map (·.shown)) := by
  have hv : c.toJson.get? "verdict" = some (.string c.verdict.name) := rfl
  have hd : c.toJson.get? "decisions" = some (.array (c.decisions.map (·.toJson))) := rfl
  have hn : verdictOfName? c.verdict.name = some c.verdict := by cases c.verdict <;> decide
  have hi := items?_printed isGap_nil 1 (c.decisions.map (·.toJson))
  rw [List.append_nil] at hi
  rw [shownCheck?, member?_string ha 0 hv, member?_printed ha 0 hd, Option.bind_some, hn, Option.bind_some, hi]
  simp only [Option.bind_eq_bind, Option.bind_some, mapM_ofText?_printed]
  rfl

theorem members?_decisionsJson (ds : List Decision) :
    (members? (printed 0 (decisionsJson ds) ++ after)).isSome = true ↔ ds.length = 1 := by
  rcases ds with _ | ⟨d, _ | ⟨d', ds⟩⟩ <;> simp only [decisionsJson]
  · simp [members?_printed_array]
  · have ⟨ms, hm⟩ : ∃ ms, d.toJson = .object ms := ⟨_, rfl⟩
    simp [hm, members?_printed ha]
  · simp [members?_printed_array]

theorem shownDecisions?_printed (ds : List Decision) :
    shownDecisions? (printed 0 (decisionsJson ds) ++ after) = some (ds.map (·.shown)) := by
  have hm := members?_decisionsJson ha ds
  have several (h : ds.length ≠ 1) (hj : decisionsJson ds = .array (ds.map (·.toJson))) :
      shownDecisions? (printed 0 (decisionsJson ds) ++ after) = some (ds.map (·.shown)) := by
    rw [shownDecisions?, if_neg (mt hm.mp h), hj, items?_printed ha]
    exact mapM_ofText?_printed 1 ds
  rcases ds with _ | ⟨d, _ | ⟨d', ds⟩⟩
  · exact several (by simp) rfl
  · rw [shownDecisions?, if_pos (hm.mpr rfl)]
    exact congrArg (Option.map fun d => [d]) (ofText?_printed ha 0 d)
  · exact several (by simp) rfl

end Output

theorem encodeString_line (v : Json) : Utf8.encodeString (v.pretty ++ "\n") = printed 0 v ++ [0x0A] := by
  rw [Utf8.encodeString, Json.pretty, String.toList_append, String.toList_ofList, Utf8.encode_append]
  rfl

theorem isGap_lineEnd : IsGap [0x0A] :=
  List.forall_mem_singleton.mpr rfl

theorem checkShows_line {c : Host.PolicyCheck} (hc : c.IsCoherent) (hd : ∀ d ∈ c.decisions, d.IsCoherent) :
    CheckShows (Utf8.encodeString (c.toJson.pretty ++ "\n")) c.verdict.exitStatus := by
  rw [encodeString_line]
  have he := enforces_shown hd
  rw [← hc.combined] at he
  exact {
    document := by rw [document?_printed isGap_lineEnd]; rfl
    shown := ⟨c.verdict, _, shownCheck?_printed isGap_lineEnd c, by rw [combinedVerdict_shown, hc.combined],
      rfl, he⟩ }

theorem evaluationShows_line {assets : List String} {ds : List Decision} (ha : ds.map (·.asset) = assets)
    (hd : ∀ d ∈ ds, d.IsCoherent) :
    EvaluationShows assets (Utf8.encodeString ((decisionsJson ds).pretty ++ "\n"))
      (combinedResult ds).verdict.exitStatus := by
  rw [encodeString_line]
  have hl : assets.length = ds.length := by rw [← ha, List.length_map]
  exact {
    document := by rw [document?_printed isGap_lineEnd]; rfl
    alone := by rw [hl]; exact members?_decisionsJson isGap_lineEnd ds
    shown := ⟨_, shownDecisions?_printed isGap_lineEnd ds, by rw [List.map_map]; exact ha, enforces_shown hd⟩ }

variable {σ : Type}

theorem coherent_of_answers {principal : String} {qs : List Query} {ds : List Decision}
    (h : List.Forall₂ (fun q d => Decision.Answers d principal q) qs ds) : ∀ d ∈ ds, d.IsCoherent := by
  induction h
  case nil => exact List.forall_mem_nil _
  case cons hd _ hi => exact List.forall_mem_cons.mpr ⟨hd.toIsCoherent, hi⟩

theorem assets_of_answers {principal : String} {qs : List Query} {ds : List Decision}
    (h : List.Forall₂ (fun q d => Decision.Answers d principal q) qs ds) :
    ds.map (·.asset) = qs.map (·.asset) := by
  induction h
  case nil => rfl
  case cons hd _ hi => rw [List.map_cons, List.map_cons, hd.asset, hi]

theorem checkPolicy_decisions_coherent (adapter : Host.Adapter σ) (draw : Run σ Call) (command : List String)
    (context : Host.Context) (s : σ) :
    ∀ d ∈ (adapter.checkPolicy draw command context s).value.decisions, d.IsCoherent := by
  have ha := (adapter.checkPolicy_answers draw s command context).right
  split at ha
  case isTrue => simp [ha]
  case isFalse => exact coherent_of_answers ha

theorem evaluateAssets_answers (client : Client σ) (draw : Run σ Call) (principal : String)
    (assets : List String) (action : String) (s : σ) :
    List.Forall₂ (fun q d => Decision.Answers d principal q)
      (assets.map fun asset => ⟨asset, effectiveAction action⟩)
      (evaluateAssets client draw principal assets action s).value := by
  have batch (assets : List String) := client.evaluateBatch_answers principal draw s
    (assets.map fun asset => ⟨asset, action⟩)
  simp only [List.map_map] at batch
  rcases assets with _ | ⟨asset, _ | ⟨asset', assets⟩⟩ <;> simp only [evaluateAssets]
  · exact batch []
  · exact .cons (client.evaluate_answers principal draw s asset action) .nil
  · exact batch (asset :: asset' :: assets)

namespace Invocation

variable {i : Invocation} {files logged : Volume} {config : Config}

-- Whatever the service does: the decisions are coherent, and output and status are made of the same ones.
theorem report_shows_what_it_enforces (environment : Environment)
    (transport : Volume.Reader → Transport σ) (draw : Run σ Call) (time : Nat) (hf : i.opened files = .ok logged)
    (hl : Surroundings.Loads ⟨environment, logged.read, transport logged.read, draw, time⟩ i.configPath config)
    (state : σ) :
    let r := (i.report environment files transport draw time state).value
    (∀ user command, i.command = .check user command →
        CheckShows (Utf8.encodeString r.output) r.status) ∧
      ∀ principal assets action, i.command = .evaluate principal assets action →
        EvaluationShows assets (Utf8.encodeString r.output) r.status := by
  have ⟨errors, after, hv⟩ := report_value environment transport draw time hf state
  have line (text : String) : String.join [text ++ "\n"] = text ++ "\n" := by simp [String.join]
  rw [hv]
  refine ⟨fun user command hc => ?check, fun principal assets action hc => ?evaluate⟩
  case check =>
    have hr : (i.run ⟨environment, logged.read, transport logged.read, draw, time⟩ state).value =
        let c := (hl.adapter.checkPolicy draw command user state).value
        { status := c.verdict.exitStatus, output := [c.toJson.pretty] } := by
      rw [run, hc]
      simp only [hl.withAdapter_eq]
      rfl
    rw [hr]
    simp only [Report.ofCompletion, List.map_cons, List.map_nil, line]
    exact checkShows_line (hl.adapter.checkPolicy_isCoherent draw state command user)
      (checkPolicy_decisions_coherent hl.adapter draw command user state)
  case evaluate =>
    have hr : (i.run ⟨environment, logged.read, transport logged.read, draw, time⟩ state).value =
        let ds := (evaluateAssets hl.adapter.client draw principal assets action state).value
        { status := (combinedResult ds).verdict.exitStatus, output := [(decisionsJson ds).pretty] } := by
      rw [run, hc]
      simp only [hl.withClient_eq]
      rfl
    have ha := evaluateAssets_answers hl.adapter.client draw principal assets action state
    have hs := assets_of_answers ha
    rw [List.map_map] at hs
    rw [hr]
    simp only [Report.ofCompletion, List.map_cons, List.map_nil, line]
    exact evaluationShows_line (hs.trans (List.map_id' assets)) (coherent_of_answers ha)

theorem loads_local (t : Transport Tape) (draw : Run Tape Call) (time : Nat) :
    Surroundings.Loads
      ⟨.fixed [], (soleFile "\x7b\"api_url\":\"http://localhost:80\",\"api_token\":\"token\"\x7d").read, t, draw, time⟩
      (some "/c") (Config.ofSettings { apiUrl := some "http://localhost:80", apiToken := some "token" } (.fixed [])) :=
  loads_soleFile _ _ _ _ _ _ (by decide +kernel) (by decide +kernel) (by decide +kernel) (by decide +kernel)

-- Two assets, one of them allowed and the other refused: the first of them that is not allowed decides.
theorem report_shows_what_it_enforces_refused :
    let files := soleFile "\x7b\"api_url\":\"http://localhost:80\",\"api_token\":\"token\"\x7d"
    let i : Invocation := ⟨some "/c", none, .evaluate "alice" ["/bin/ls", "/bin/cat"] "execute"⟩
    let body := Utf8.encodeString
      "\x7b\"decisions\":[\x7b\"decision\":\"Allow\"\x7d,\x7b\"decision\":\"Deny\"\x7d]\x7d"
    let tape : Tape := { deliveries := [.response ⟨200, some body.length, body, .complete⟩] }
    let call : Call := ⟨⟨"r"⟩, 0⟩
    let r := (i.report (.fixed []) files (.https · Tape.service) call 0 tape).value
    i.opened files = .ok files ∧ EvaluationShows ["/bin/ls", "/bin/cat"] (Utf8.encodeString r.output) r.status := by
  intro files i body tape call r
  have hl := loads_local (.https files.read Tape.service) call 0
  have h := report_shows_what_it_enforces (i := i) _ (.https · Tape.service) _ _ rfl hl tape
  exact ⟨rfl, h.right "alice" ["/bin/ls", "/bin/cat"] "execute" rfl⟩

theorem openAppend_root (text : String) : (soleFile text).openAppend "/" = .error .isDirectory := by
  have hn : Volume.names "/" = [] := by cbv
  have hb : Volume.namesBeforeSlash? "/" = none := by
    rw [Volume.namesBeforeSlash?, hn]
    rfl
  have hl : (soleFile text).locate "/" = .ok (.present [] .directory) := by
    rw [Volume.locate, hn]
    rfl
  rw [Volume.openAppend, hb, hl]
  rfl

-- A check whose log cannot be opened ends before the configuration is looked at, and prints no document.
theorem report_unopened_log_shows_nothing :
    let files := soleFile "\x7b\"api_url\":\"http://localhost:80\",\"api_token\":\"token\"\x7d"
    let i : Invocation := ⟨some "/c", some "/", .check (.forUser "alice") ["/bin/ls"]⟩
    let tape : Tape := { deliveries := [.response ⟨401, some 0, [], .complete⟩] }
    let call : Call := ⟨⟨"r"⟩, 0⟩
    let r := (i.report (.fixed []) files (.https · Tape.service) call 0 tape).value
    (∃ config, Surroundings.Loads ⟨.fixed [], files.read, .https files.read Tape.service, call, 0⟩
        i.configPath config) ∧
      ¬CheckShows (Utf8.encodeString r.output) r.status := by
  intro files i tape call r
  refine ⟨⟨_, loads_local _ _ _⟩, fun h => ?_⟩
  have hr : r.output = "" := by
    have hv : i.report (.fixed []) files (.https · Tape.service) call 0 tape = _ :=
      report_unlogged rfl (openAppend_root _)
    show (i.report (.fixed []) files (.https · Tape.service) call 0 tape).value.output = ""
    rw [hv]
    rfl
  have hd := h.document
  rw [hr] at hd
  contradiction

end Invocation
end CommandLine
end AccessControl
