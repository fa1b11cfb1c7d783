import AccessControl.Proofs.Settlement
import AccessControl.Proofs.Tally

namespace AccessControl

open Effect

-- The assets of the decisions that allow one, each decision in its turn.
inductive Listed : List ServiceDecision → List String → Prop
  | nil : Listed [] []
  | allowed {d : ServiceDecision} {ds : List ServiceDecision} {asset : String} {assets : List String}
      (hd : d.decision = some "Allow") (ha : d.assetId = some asset) (h : Listed ds assets) :
    Listed (d :: ds) (asset :: assets)
  | passed {d : ServiceDecision} {ds : List ServiceDecision} {assets : List String}
      (hd : d.decision ≠ some "Allow" ∨ d.assetId = none) (h : Listed ds assets) :
    Listed (d :: ds) assets

structure SearchResult.Finds (r : SearchResult) (response : Response) : Prop where
  result : r.result = .ok
  message : r.errorMessage = none
  assets : Listed response.decisions r.assets
  token : ∀ token, r.nextPageToken = some token ↔ response.nextPageToken = some token ∧ token ≠ ""

structure SearchResult.FailsBy (r : SearchResult) (e : AccessError) : Prop where
  result : r.result = e.result
  message : r.errorMessage = some e.message
  assets : r.assets = []
  token : r.nextPageToken = none

-- By induction on the decisions; each one is looked at for its word first, and then for its asset.
theorem listed_filterMap (ds : List ServiceDecision) :
    Listed ds ((ds.filter (·.decision = some "Allow")).filterMap (·.assetId)) := by
  induction ds
  case nil => exact .nil
  case cons d ds hi =>
    by_cases hd : d.decision = some "Allow"
    case neg =>
      rw [List.filter_cons_of_neg (by simpa using hd)]
      exact .passed (.inl hd) hi
    case pos =>
      rw [List.filter_cons_of_pos (by simpa using hd)]
      cases ha : d.assetId
      case none =>
        rw [List.filterMap_cons_none ha]
        exact .passed (.inr ha) hi
      case some asset =>
        rw [List.filterMap_cons_some ha]
        exact .allowed hd ha hi

namespace Client

variable {σ : Type} {client : Client σ} (call call' : Call) (principal action : String)

theorem searchOutcome_finds (response : Response) :
    (searchOutcome call principal action (.ok response)).Finds response where
  result := rfl
  message := rfl
  assets := listed_filterMap response.decisions
  token token := by simp [searchOutcome, SearchResult.ofResponse, Option.filter_eq_some_iff]

theorem searchOutcome_failsBy (e : AccessError) :
    (searchOutcome call principal action (.error e)).FailsBy e :=
  ⟨rfl, rfl, rfl, rfl⟩

-- No identifier goes into the assets.
theorem searchOutcome_assets_renamed (ρ : Renaming) (r : Except AccessError Response) :
    (searchOutcome call' principal action (ρ.outcome r)).assets = (searchOutcome call principal action r).assets := by
  cases r <;> rfl

variable (client) in
theorem assets_inquires :
    (client.assets call principal action).Agrees <|
      (client.inquire call <| client.searchInquiry call principal action none).map fun r =>
        (searchOutcome call principal action r).assets := by
  have ha := (client.searchWith_inquires call principal action none).map fun found =>
    if found.result = .ok then found.assets else []
  refine ha.trans { value := ?_, deeds := fun _ => rfl, state := fun _ => rfl }
  exact fun s => searchOutcome_assets ..

theorem search_finds (h : client.transport.IsScripted) (token : Option String) (size : UInt32) (s : σ) :
    let found := client.search call principal action token size s
    let listed := client.assets call' principal action s
    let payload := searchPayload principal (effectiveAction action) <|
      some ⟨token, if size = 0 then 50 else size.toNat⟩
    (∃ r, client.Settles call principal [] .search payload s r) ∧
      (∀ response, client.Settles call principal [] .search payload s (.ok response) →
        found.value.Finds response) ∧
      (∀ e, client.Settles call principal [] .search payload s (.error e) → found.value.FailsBy e) ∧
      listed.value = found.value.assets ∧ listed.state = found.state ∧
      (attempts listed.effects).length = (attempts found.effects).length ∧
      pauses listed.effects = pauses found.effects := by
  intro found listed payload
  let page : Page := ⟨token, if size = 0 then 50 else size.toNat⟩
  let q := client.searchInquiry call principal action (some page)
  let q' := client.searchInquiry call' principal action none
  let o := client.inquire call q s
  let o' := client.inquire call' q' s
  have hf := client.searchWith_inquires call principal action (some page)
  have hl := client.assets_inquires call' principal action
  have ht : o'.Tallies (.toward call') Attempt.endpoint o :=
    inquire_tallies (q := q) (r := q') h (fun _ => rfl) (evaluationChecks_toward principal []) rfl rfl s
  have hv : found.value = searchOutcome call principal action o.value := hf.value s
  refine ⟨⟨o.value, settles_iff.mpr rfl⟩, ?finds, ?fails, ?assets, ?state, ?attempts, ?pauses⟩
  case finds =>
    intro response hr
    rw [hv, show o.value = .ok response from settles_iff.mp hr]
    exact searchOutcome_finds call principal action response
  case fails =>
    intro e he
    rw [hv, show o.value = .error e from settles_iff.mp he]
    exact searchOutcome_failsBy call principal action e
  case assets =>
    have ha : listed.value = (searchOutcome call' principal action o'.value).assets := hl.value s
    rw [ha, hv, ht.value, searchOutcome_assets_renamed]
  case state => exact (hl.state s).trans <| ht.state.trans (hf.state s).symm
  case attempts =>
    have hn : (attempts o'.effects).length = (attempts o.effects).length := by
      simpa using congrArg List.length ht.attempts
    exact (congrArg _ (hl.attempts s)).trans <| hn.trans (congrArg _ (hf.attempts s)).symm
  case pauses => exact (hl.pauses s).trans <| ht.pauses.trans (hf.pauses s).symm

-- An answer at the second attempt that names an asset twice, refuses one, and once names none.
theorem search_finds_twice :
    let client : Client Script := ⟨{ apiUrl := "localhost", apiToken := "token" }, .scripted⟩
    let response : Response :=
      { decisions := [⟨"Allow", none, "ls", []⟩, ⟨"Deny", none, "su", []⟩, ⟨"Allow", none, none, []⟩,
          ⟨"Allow", "owner", "ls", []⟩]
        nextPageToken := some "" }
    let entry (word : String) (rest : List (String × Json)) : Json := .object (("decision", .string word) :: rest)
    let body : Json := .object
      [("decisions", .array [entry "Allow" [("assetId", .string "ls")], entry "Deny" [("assetId", .string "su")],
        entry "Allow" [], entry "Allow" [("assetId", .string "ls"), ("reason", .string "owner")]]),
        ("nextPageToken", .string "")]
    let script : Script := [.failure .timedOut, .success body]
    let call : Call := ⟨⟨"a"⟩, 1⟩
    let call' : Call := ⟨⟨"b"⟩, 2⟩
    let found := (client.search call "alice" "" none 0 script).value
    client.transport.IsScripted ∧ found.Finds response ∧ found.assets = ["ls", "ls"] ∧
      (client.assets call' "alice" "" script).value = ["ls", "ls"] := by
  intro client response entry body script call call' found
  have hs : client.transport.IsScripted := .outcomes
  have ⟨_, hf, _, ha, _⟩ := search_finds call call' "alice" "" hs none 0 script
  have hr : found.Finds response := hf response <| settles_iff.mpr rfl
  have hl : found.assets = ["ls", "ls"] := by decide +kernel
  exact ⟨hs, hr, hl, ha.trans hl⟩

end Client
end AccessControl
