import AccessControl.Proofs.Checks
import AccessControl.Proofs.Operation
import AccessControl.Proofs.Rejection
import AccessControl.Proofs.RoundTrip
import AccessControl.Transport.Scripted

namespace AccessControl

open Effect

namespace Transport

variable {σ : Type} {file : Volume.Reader} {service : Service σ}

theorem deliver_passive (h : service.Quiet) (a : Attempt) (url : Http.Url) :
    (deliver service a url).Passive := by
  refine .bind { attempts := h.attempts url _ } fun d => ?_
  cases d
  case response r => exact .of_deeds fun _ => deeds_readResponse
  all_goals exact .pure _

theorem https_passive (h : service.Quiet) : (https file service).Passive := by
  intro a
  simp only [https]
  cases checkSender file a.config a.call.requestId
  case error e => exact .warned <| .pure _
  case ok =>
    cases Http.Url.read? a.url
    case none => exact .warned <| .warned <| .log_bind <| .pure _
    case some url =>
      cases Http.isHeaderText a.config.apiToken
      case false => exact .warned <| .warned <| .log_bind <| .pure _
      case true =>
        exact .warned <| .warned <| .log_bind <| .ite (.pure _) <| .ite (.pure _) <| deliver_passive h a url

end Transport

-- What a service is asked: whether the principal may perform an action on an asset, or on which assets
-- it may, a page of them or all at once.
inductive Question
  | evaluation (action asset : String)
  | search (action : String) (page : Option Page)

namespace Question

def action : Question → String
  | evaluation action _ | search action _ => action

def asset? : Question → Option String
  | evaluation _ asset => some asset
  | search _ _ => none

def page? : Question → Option Page
  | evaluation _ _ => none
  | search _ page => page

structure IsSound (q : Question) : Prop where
  action : Text.isBlankText q.action = false
  asset : ∀ asset, q.asset? = some asset → isIdentifier asset = true

-- The question as it is read, with its members in the order of their keys. The asset is described under
-- the key that the configuration names, unless that is none or the identifier itself.
def document (key : String) : Question → Json
  | evaluation action asset =>
    if key = "" ∨ key = "id" then .object [("action", .string action), ("assetId", .string asset)]
    else .object
      [("action", .string action), ("asset", .object [(key, .string asset)]), ("assetId", .string asset)]
  | search action none => .object [("action", .string action)]
  | search action (some ⟨none, size⟩) =>
    .object [("action", .string action), ("pageSize", .nat size)]
  | search action (some ⟨some token, size⟩) =>
    .object [("action", .string action), ("pageSize", .nat size), ("pageToken", .string token)]

theorem restorable_nat {depth n : Nat} (h : n ≤ Json.maxSignificand) : Json.Restorable depth (.nat n) := by
  have hl : -(Nat.pow 2 63 : Nat) ≤ (n : Int) := by omega
  exact .integer hl (Int.ofNat_le.mpr h)

theorem restorable_document {depth : Nat} (key : String) (q : Question)
    (h : ∀ page, q.page? = some page → page.size ≤ Json.maxSignificand) :
    Json.Restorable (depth + 2) (q.document key) := by
  cases q
  case evaluation action asset =>
    rw [document]
    split
    case isTrue => exact .object rfl (by simp [Json.Restorable.string])
    case isFalse =>
      have hd : Json.Restorable (depth + 1) (.object [(key, .string asset)]) :=
        .object rfl (by simp [Json.Restorable.string])
      exact .object rfl (by simp [Json.Restorable.string, hd])
  case search action page =>
    rcases page with _ | ⟨_ | token, size⟩
    · exact .object rfl (by simp [Json.Restorable.string])
    · exact .object rfl (by simp [Json.Restorable.string, restorable_nat (h _ rfl)])
    · exact .object rfl (by simp [Json.Restorable.string, restorable_nat (h _ rfl)])

end Question

-- The request as it is read: who asks, and the questions in their order.
def requestDocument (principal : String) (questions : List Json) : Json :=
  .object [("principal", .object [("id", .string principal)]), ("queries", .array questions)]

theorem requestPayload_eq (principal : String) (questions : List Json) :
    requestPayload principal questions = requestDocument principal questions := rfl

theorem Query.toJson_eq (key : String) (q : Query) :
    q.toJson key = (Question.evaluation q.action q.asset).document key := by
  unfold toJson Question.document idAttribute
  split <;> rfl

-- A page is asked for by its token only if there is one.
def Page.named (p : Page) : Page :=
  { p with token := p.token.filter (· ≠ "") }

theorem searchPayload_eq (principal action key : String) (page : Option Page) :
    searchPayload principal action page =
      requestDocument principal [(Question.search action (page.map Page.named)).document key] := by
  match page with
  | none => rfl
  | some ⟨none, size⟩ => rfl
  | some ⟨some token, size⟩ =>
    by_cases h : token = ""
    case pos => subst h; rfl
    case neg =>
      have hn : token.isEmpty = false := by simp [h]
      have hp : Page.named ⟨some token, size⟩ = ⟨some token, size⟩ := by simp [Page.named, h]
      rw [Option.map_some, hp, searchPayload]
      simp only [hn]
      rfl

namespace Operation

def principal? : Operation → Option String
  | .validate => none
  | .evaluate principal .. | .check principal .. | .batch principal _ | .assets principal _
  | .search principal .. => some principal

-- The action that is asked about: a blank one stands for this one.
def askedAction (action : String) : String :=
  if Text.isBlankText action then "execute" else action

-- An empty token is none, and a page of no size has fifty entries.
def questions : Operation → List Question
  | .validate => []
  | .evaluate _ asset action | .check _ asset action => [.evaluation (askedAction action) asset]
  | .batch _ queries => queries.map fun q => .evaluation (askedAction q.action) q.asset
  | .assets _ action => [.search (askedAction action) none]
  | .search _ action token size =>
    [.search (askedAction action) <|
      some ⟨token.filter (· ≠ ""), if size = 0 then 50 else size.toNat⟩]

theorem isBlankText_askedAction (action : String) : Text.isBlankText (askedAction action) = false := by
  have hd : Text.isBlankText "execute" = false := by decide +kernel
  unfold askedAction
  split
  case isTrue => exact hd
  case isFalse h => exact Bool.eq_false_iff.mpr h

variable {op : Operation} {q : Question}

theorem isBlankText_of_mem_questions (h : q ∈ op.questions) : Text.isBlankText q.action = false := by
  have ⟨action, ha⟩ : ∃ action, q.action = askedAction action := by
    cases op
    case validate => contradiction
    case batch principal queries =>
      have ⟨query, _, hq⟩ := List.mem_map.mp h
      exact ⟨query.action, hq ▸ rfl⟩
    all_goals exact ⟨_, congrArg Question.action <| List.mem_singleton.mp h⟩
  rw [ha]
  exact isBlankText_askedAction action

theorem size_le_of_mem_questions {page : Page} (h : q ∈ op.questions) (hp : q.page? = some page) :
    page.size ≤ Json.maxSignificand := by
  cases op
  case validate => contradiction
  case batch principal queries =>
    have ⟨query, _, hq⟩ := List.mem_map.mp h
    rw [← hq] at hp
    contradiction
  case search principal action token size =>
    rw [List.mem_singleton.mp h] at hp
    cases hp
    have hs := size.toNat_lt
    have hm : Json.maxSignificand = 18446744073709551615 := rfl
    dsimp only
    split <;> omega
  all_goals
    rw [List.mem_singleton.mp h] at hp
    contradiction

-- The document of an operation is one that reading brings back.
theorem restorable_questions (op : Operation) (principal key : String) :
    Json.Restorable Json.maxDepth (requestDocument principal <| op.questions.map (·.document key)) := by
  have hp : Json.Restorable 126 (.object [("id", .string principal)]) :=
    .object rfl (by simp [Json.Restorable.string])
  have hq : Json.Restorable 126 (.array <| op.questions.map (·.document key)) := by
    refine .array fun v hv => ?_
    have ⟨q, hm, he⟩ := List.mem_map.mp hv
    rw [← he]
    exact Question.restorable_document key q fun page h => size_le_of_mem_questions hm h
  exact .object rfl (by simp [hp, hq])

end Operation

namespace Client

variable {σ : Type} {client : Client σ} {call : Call} {op : Operation} {q : Inquiry} {a : Attempt} {s : σ}

-- An operation that sends anything asks its questions, after the checks of everybody and everything named.
theorem inquiry_asks (h : client.inquiry? call op = some q) :
    ∃ principal, op.principal? = some principal ∧ op.questions ≠ [] ∧
      q.checks = client.evaluationChecks call principal (op.questions.filterMap (·.asset?)) ∧
      q.payload = requestDocument principal (op.questions.map (·.document client.config.assetAttribute)) := by
  have he (principal : String) (queries : List Query) :
      evaluationPayload client.config principal (queries.map Query.effective) =
        requestDocument principal ((queries.map fun q =>
          Question.evaluation (Operation.askedAction q.action) q.asset).map
            (·.document client.config.assetAttribute)) := by
    simp only [evaluationPayload, requestPayload_eq, List.map_map, Function.comp_def, Query.toJson_eq]
    rfl
  cases op
  case validate => contradiction
  case evaluate principal asset action =>
    cases h
    exact ⟨principal, rfl, List.cons_ne_nil _ _, rfl, he principal [⟨asset, action⟩]⟩
  case check principal asset action =>
    cases h
    exact ⟨principal, rfl, List.cons_ne_nil _ _, rfl, he principal [⟨asset, action⟩]⟩
  case batch principal queries =>
    have hn : queries ≠ [] := by
      intro hn
      simp [inquiry?, hn] at h
    simp only [inquiry?, if_neg hn, Option.some.injEq] at h
    subst h
    have ha : (Operation.batch principal queries).questions.filterMap (·.asset?) = queries.map (·.asset) := by
      rw [Operation.questions, List.filterMap_map]
      exact congrFun List.filterMap_eq_map queries
    refine ⟨principal, rfl, by simpa [Operation.questions] using hn, ?_, he principal queries⟩
    rw [ha]
    rfl
  case assets principal action =>
    cases h
    have hs := searchPayload_eq principal (effectiveAction action) client.config.assetAttribute none
    exact ⟨principal, rfl, List.cons_ne_nil _ _, rfl, hs⟩
  case search principal action token size =>
    cases h
    have hs := searchPayload_eq principal (effectiveAction action) client.config.assetAttribute <|
      some ⟨token, if size = 0 then defaultPageSize else size.toNat⟩
    exact ⟨principal, rfl, List.cons_ne_nil _ _, rfl, hs⟩

theorem mem_attempts_perform (ht : client.transport.Passive)
    (h : a ∈ attempts (client.perform call op s).effects) :
    ∃ q, client.inquiry? call op = some q ∧ q.checks = .ok () ∧
      a = client.attemptOf call q.endpoint q.payload := by
  cases hq : client.inquiry? call op
  case none =>
    rw [← attempts_deeds, perform_quiet hq] at h
    contradiction
  case some q =>
    rw [(perform_inquires hq).attempts] at h
    exact ⟨q, rfl, mem_attempts_request ht h⟩

theorem perform_sends (ht : client.transport.Passive)
    (ha : a ∈ attempts (client.perform call op s).effects) (url : Http.Url) :
    client.config.isValid = true ∧ op.questions ≠ [] ∧ (∀ q ∈ op.questions, q.IsSound) ∧
      ∃ principal, op.principal? = some principal ∧ isIdentifier principal = true ∧
        Json.read (Utf8.encodeString (a.request url).body) =
          .ok (requestDocument principal <|
            op.questions.map (·.document client.config.assetAttribute)) := by
  have ⟨q, hq, hc, he⟩ := mem_attempts_perform ht ha
  have ⟨principal, hp, hn, hk, hd⟩ := inquiry_asks hq
  have ⟨hi, hs, hv⟩ := (client.evaluationChecks_eq_ok_iff ..).mp (hk ▸ hc)
  have hb : (a.request url).body = q.payload.compact := he ▸ rfl
  have hsound (q : Question) (hm : q ∈ op.questions) : q.IsSound :=
    { action := Operation.isBlankText_of_mem_questions hm
      asset := fun asset h => hs asset <| List.mem_filterMap.mpr ⟨q, hm, h⟩ }
  refine ⟨hv, hn, hsound, principal, hp, hi, ?_⟩
  rw [hb, hd]
  exact Json.read_compact (op.restorable_questions principal client.config.assetAttribute)

-- The second attempt, after one that failed: a quote ends no text, and a blank action is the usual one.
theorem perform_sends_quoted :
    let config : Config :=
      { apiUrl := "http://127.0.0.1:18080", apiToken := "token", retryCount := 1, assetAttribute := "k\\" }
    let client : Client Tape := ⟨config, .https (fun _ => .error .notFound) Tape.service⟩
    let call : Call := ⟨⟨"r"⟩, 0⟩
    let o := client.perform call (.evaluate "al\"ice" "\",\n\"é" " ") { deliveries := [.failed] }
    ∃ a, (attempts o.effects)[1]? = some a ∧ ∀ url,
      Json.read (Utf8.encodeString (a.request url).body) = .ok (.object
        [("principal", .object [("id", .string "al\"ice")]),
          ("queries", .array [.object
            [("action", .string "execute"), ("asset", .object [("k\\", .string "\",\n\"é")]),
              ("assetId", .string "\",\n\"é")]])]) := by
  intro config client call o
  have hl : 1 < (attempts o.effects).length := by decide +kernel
  refine ⟨(attempts o.effects)[1], List.getElem?_eq_getElem hl, fun url => ?_⟩
  have ⟨_, _, _, principal, hp, _, hr⟩ := perform_sends (Transport.https_passive Tape.service_quiet)
    (List.getElem_mem hl) url
  cases hp
  exact hr

end Client
end AccessControl
