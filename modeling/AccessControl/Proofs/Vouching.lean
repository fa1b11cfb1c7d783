import AccessControl.Proofs.Gate
import Mathlib.Data.List.Forall2
import Mathlib.Data.List.TakeWhile

namespace AccessControl

def Config.withToken (c : Config) (token : String) : Config :=
  { c with apiToken := token }

def Attempt.withToken (a : Attempt) (token : String) : Attempt :=
  { a with config := a.config.withToken token }

namespace Http

-- What a URL says by itself of the sender, where it goes in front of the token.
def Url.vouching (url : Url) : String :=
  match url.credentials? with
  | some (user, password) =>
    "Basic " ++ String.ofList (Base64.encode (Utf8.encodeString (user ++ ":" ++ password))) ++ ", "
  | none => ""

-- The request with these words in the header that vouches for the sender.
def Request.signed (r : Request) (authorization : String) : Request :=
  { r with headers := r.headers.map fun (name, value) =>
      (name, if name = "authorization" then authorization else value) }

end Http

theorem Attempt.authorization_eq (a : Attempt) (url : Http.Url) :
    a.authorization url = url.vouching ++ "Bearer " ++ a.config.apiToken := by
  unfold authorization Http.Url.vouching
  cases url.credentials?
  case none => exact (String.empty_append ..).symm
  case some credentials => simp only [String.append_assoc]

theorem Attempt.request_withToken (a : Attempt) (token : String) (url : Http.Url) :
    (a.withToken token).request url = (a.request url).signed (url.vouching ++ "Bearer " ++ token) := by
  have ha := (a.withToken token).authorization_eq url
  rw [request, ha]
  rfl

namespace Http.Url

theorem splitUserInfo_plain {cs : List Char} (h : '@' ∉ cs) : splitUserInfo cs = ([], cs) := by
  have ht : cs.reverse.takeWhile (· != '@') = cs.reverse :=
    List.takeWhile_eq_self_iff.mpr fun c hc => by
      have hn : c ≠ '@' := fun he => h (he ▸ List.mem_reverse.mp hc)
      simpa using hn
  simp [splitUserInfo, ht]

theorem mem_of_mem_visible {cs : List Char} {c : Char} (h : c ∈ visible cs) : c ∈ cs := by
  have hr := List.mem_reverse.mp (List.mem_of_mem_filter h)
  exact (List.dropWhile_sublist _).mem <| List.mem_reverse.mp <| (List.dropWhile_sublist _).mem hr

theorem readRest?_plain {scheme : Scheme} {cs : List Char} {url : Url} (h : readRest? scheme cs = some url)
    (hp : '@' ∉ cs) : url.user = "" ∧ url.password = "" := by
  have hn : '@' ∉ cs.takeWhile (!endsAuthority ·) := fun hm => hp ((List.takeWhile_sublist _).mem hm)
  simp only [readRest?, splitUserInfo_plain hn, Option.bind_eq_bind, Option.bind_eq_some_iff] at h
  obtain ⟨_, _, _, _, hu⟩ := h
  cases hu
  exact ⟨rfl, rfl⟩

theorem read?_plain {text : String} {url : Url} (h : read? text = some url) (hp : '@' ∉ text.toList) :
    url.user = "" ∧ url.password = "" := by
  have hv : '@' ∉ visible text.toList := fun hm => hp (mem_of_mem_visible hm)
  have rest {n : Nat} : '@' ∉ ((visible text.toList).drop n).dropWhile isSlash := fun hm =>
    hv ((List.drop_sublist ..).mem ((List.dropWhile_sublist _).mem hm))
  dsimp only [read?] at h
  split at h
  case h_1 hs =>
    split at hs <;> cases hs
    exact readRest?_plain h rest
  case h_2 hs =>
    split at hs <;> cases hs
    exact readRest?_plain h rest
  case h_3 => contradiction

-- A text without `@` says nothing of the sender.
theorem vouching_of_plain {text : String} {url : Url} (h : read? text = some url) (hp : '@' ∉ text.toList) :
    url.vouching = "" := by
  have ⟨hu, hw⟩ := read?_plain h hp
  have hc : url.credentials? = none := by
    rw [credentials?, hu, hw]
    decide +kernel
  rw [vouching, hc]

end Http.Url

-- What two sides show of one attempt that differ in the token: the same, but that each sends its own. What
-- they send goes to the URL of the attempt.
inductive Effect.Apart (a : Attempt) (t₁ t₂ : String) : Effect → Effect → Prop
  | logged (e : Log.Event) : Apart a t₁ t₂ (.logged e) (.logged e)
  | paused (delay : Nat) : Apart a t₁ t₂ (.paused delay) (.paused delay)
  | greeted : Apart a t₁ t₂ (.arrived .tlsGreeting) (.arrived .tlsGreeting)
  | arrived {url : Http.Url} (h : Http.Url.read? a.url = some url) :
    Apart a t₁ t₂ (.arrived <| .request <| (a.request url).signed (url.vouching ++ "Bearer " ++ t₁))
      (.arrived <| .request <| (a.request url).signed (url.vouching ++ "Bearer " ++ t₂))

-- What they show all in all. Attempts are made under one configuration but for the token, and nothing
-- arrives that is not of the last attempt before.
inductive Effects.Apart (c : Config) (t₁ t₂ : String) : List Effect → List Effect → Prop
  | nil : Apart c t₁ t₂ [] []
  | logged (e : Log.Event) (h : Apart c t₁ t₂ es₁ es₂) : Apart c t₁ t₂ (.logged e :: es₁) (.logged e :: es₂)
  | paused (delay : Nat) (h : Apart c t₁ t₂ es₁ es₂) :
    Apart c t₁ t₂ (.paused delay :: es₁) (.paused delay :: es₂)
  | attempted {a : Attempt} (hc : a.config = c) (hs : List.Forall₂ (Effect.Apart a t₁ t₂) shown₁ shown₂)
      (h : Apart c t₁ t₂ es₁ es₂) :
    Apart c t₁ t₂ (.attempted (a.withToken t₁) :: (shown₁ ++ es₁)) (.attempted (a.withToken t₂) :: (shown₂ ++ es₂))

theorem Effects.Apart.append (h : Apart c t₁ t₂ es₁ es₂) (k : Apart c t₁ t₂ fs₁ fs₂) :
    Apart c t₁ t₂ (es₁ ++ fs₁) (es₂ ++ fs₂) := by
  induction h
  case nil => exact k
  case logged e _ hi => exact .logged e hi
  case paused delay _ hi => exact .paused delay hi
  case attempted hc hs _ hi =>
    simp only [List.cons_append, List.append_assoc]
    exact .attempted hc hs hi

theorem Effect.records_apart {a : Attempt} (h : List.Forall₂ (Effect.Apart a t₁ t₂) es₁ es₂) :
    records es₁ = records es₂ := by
  induction h
  case nil => rfl
  case cons he _ hi =>
    cases he
    case logged e => exact congrArg (e :: ·) hi
    all_goals exact hi

theorem Effects.Apart.records_eq (h : Apart c t₁ t₂ es₁ es₂) : Effect.records es₁ = Effect.records es₂ := by
  induction h
  case nil => rfl
  case logged e _ hi => exact congrArg (e :: ·) hi
  case paused delay _ hi => exact hi
  case attempted hs _ hi =>
    show Effect.records (_ ++ _) = Effect.records (_ ++ _)
    rw [Effect.records, Effect.records, List.filterMap_append, List.filterMap_append]
    exact congrArg₂ (· ++ ·) (Effect.records_apart hs) hi

-- What comes of a request does not depend on who vouches for it, and what arrives is the request.
structure Service.IgnoresSender (service : Service σ) : Prop where
  value : ∀ url (r : Http.Request) x₁ x₂ s,
    (service.deliver url (r.signed x₁) s).value = (service.deliver url (r.signed x₂) s).value
  state : ∀ url (r : Http.Request) x₁ x₂ s,
    (service.deliver url (r.signed x₁) s).state = (service.deliver url (r.signed x₂) s).state
  shows : ∀ url (r : Http.Request) x₁ x₂ s,
    List.Forall₂ (fun e₁ e₂ =>
        e₁ = .arrived (.request (r.signed x₁)) ∧ e₂ = .arrived (.request (r.signed x₂)) ∨
          e₁ = .arrived .tlsGreeting ∧ e₂ = .arrived .tlsGreeting)
      (service.deliver url (r.signed x₁) s).effects (service.deliver url (r.signed x₂) s).effects

-- The listeners answer a request alike whoever vouches for it, and show nothing themselves.
structure Network.IgnoresSender (network : Network σ) : Prop where
  replies : ∀ host port listener, network.listener? host port = some listener →
    ∀ (r : Http.Request) x₁ x₂ s, listener (.request (r.signed x₁)) s = listener (.request (r.signed x₂)) s
  silent : ∀ host port listener, network.listener? host port = some listener →
    ∀ a s, (listener a s).effects = []

theorem Network.IsScripted.ignoresSender {network : Network σ} (h : network.IsScripted) :
    network.IgnoresSender where
  replies _ _ _ hl _ _ _ s := (h _ _ _ hl _ _ s).left
  silent _ _ _ hl a s := (h _ _ _ hl a a s).right

theorem Network.IgnoresSender.service {network : Network σ} (h : network.IgnoresSender) :
    network.service.IgnoresSender := by
  have same (url : Http.Url) (r : Http.Request) (x₁ x₂ : String) (s : σ) :
      let o₁ := network.service.deliver url (r.signed x₁) s
      let o₂ := network.service.deliver url (r.signed x₂) s
      o₁.value = o₂.value ∧ o₁.state = o₂.state ∧
        List.Forall₂ (fun e₁ e₂ =>
          e₁ = .arrived (.request (r.signed x₁)) ∧ e₂ = .arrived (.request (r.signed x₂)) ∨
            e₁ = .arrived .tlsGreeting ∧ e₂ = .arrived .tlsGreeting) o₁.effects o₂.effects := by
    unfold Network.service
    cases hl : network.listener? url.host url.portNumber <;> simp only [hl]
    case none => exact ⟨trivial, trivial, .nil⟩
    case some listener =>
      have hr := h.replies _ _ _ hl r x₁ x₂ s
      have hn (a : Http.Arrival) := h.silent _ _ _ hl a s
      cases url.scheme <;> simp [hr, hn]
  exact {
    value := fun url r x₁ x₂ s => (same url r x₁ x₂ s).left
    state := fun url r x₁ x₂ s => (same url r x₁ x₂ s).right.left
    shows := fun url r x₁ x₂ s => (same url r x₁ x₂ s).right.right }

variable {t₁ t₂ : String} {σ : Type}

theorem Side.recorded_both {P : List Effect → List Effect → Prop} (g : Log.Gate) (e : Log.Event)
    (nil : P [] []) (logged : P [.logged e] [.logged e]) : P (recorded ⟨t₁, g⟩ e) (recorded ⟨t₂, g⟩ e) := by
  unfold recorded
  split
  case isTrue => exact logged
  case isFalse => exact nil

-- Within one attempt.
def Comparison.sending (h : t₁.isEmpty = t₂.isEmpty) (a : Attempt) : Comparison where
  ρ := .refl
  left := ⟨t₁, a.config.side.gate⟩
  right := ⟨t₂, a.config.side.gate⟩
  token := h
  holds := List.Forall₂ (Effect.Apart a t₁ t₂)
  nil := .nil
  append h k := List.rel_append h k
  paused delay := .cons (.paused delay) .nil
  logged _ _ _ _ := Side.recorded_both _ _ .nil (.cons (.logged _) .nil)

def Comparison.apart (h : t₁.isEmpty = t₂.isEmpty) (c : Config) : Comparison where
  ρ := .refl
  left := ⟨t₁, c.side.gate⟩
  right := ⟨t₂, c.side.gate⟩
  token := h
  holds := Effects.Apart c t₁ t₂
  nil := .nil
  append := .append
  paused delay := .paused delay .nil
  logged _ _ _ _ := Side.recorded_both _ _ .nil (.logged _ .nil)

-- What can stand in a header, as a token has to.
structure IsToken (token : String) : Prop where
  nonempty : token ≠ ""
  headerText : Http.isHeaderText token = true

theorem IsToken.isEmpty_eq (h₁ : IsToken t₁) (h₂ : IsToken t₂) : t₁.isEmpty = t₂.isEmpty := by
  have hn {token : String} (h : IsToken token) : token.isEmpty = false := by simp [h.nonempty]
  rw [hn h₁, hn h₂]

variable {service : Service σ} (h : service.IgnoresSender) (h₁ : IsToken t₁) (h₂ : IsToken t₂)
  {file₁ file₂ : Volume.Reader}

include h

-- One attempt through two transports over one service, which read the same authorities.
theorem Service.IgnoresSender.send_apart (a : Attempt)
    (hf : ∀ path, a.config.caBundlePath = some path → file₁ path = file₂ path) :
    Run.Parallels (.sending (h₁.isEmpty_eq h₂) a) Renaming.refl.outcome
      ((Transport.https file₁ service).send (a.withToken t₁))
      ((Transport.https file₂ service).send (a.withToken t₂)) := by
  have hk : Http.isHeaderText t₁ = Http.isHeaderText t₂ := by rw [h₁.headerText, h₂.headerText]
  let C := Comparison.sending (h₁.isEmpty_eq h₂) a
  have hs : C.Serves a service service := fun url hu => by
    show Run.Parallels _ id (service.deliver url ((a.withToken t₁).request url))
      (service.deliver url ((a.withToken t₂).request url))
    rw [a.request_withToken, a.request_withToken]
    exact {
      value := h.value url _ _ _
      effects := fun s => by
        refine List.Forall₂.imp ?_ (h.shows url _ _ _ s)
        rintro e₁ e₂ (⟨rfl, rfl⟩ | ⟨rfl, rfl⟩)
        · exact .arrived hu
        · exact .greeted
      state := h.state url _ _ _ }
  have hl : (C.ρ.attempt a).on C.left = a.withToken t₁ := rfl
  have hr : a.on C.right = a.withToken t₂ := rfl
  have hp := Transport.send_parallels hf hk hs
  rwa [hl, hr] at hp

theorem Service.IgnoresSender.attempting_apart (a : Attempt)
    (hf : ∀ path, a.config.caBundlePath = some path → file₁ path = file₂ path) :
    Run.Parallels (.apart (h₁.isEmpty_eq h₂) a.config) Renaming.refl.outcome
      ((Transport.https file₁ service).attempting (a.withToken t₁))
      ((Transport.https file₂ service).attempting (a.withToken t₂)) := by
  have hs := h.send_apart h₁ h₂ a hf
  exact {
    value := hs.value
    effects := fun s => by
      have he := Effects.Apart.attempted rfl (hs.effects s) .nil
      rw [List.append_nil, List.append_nil] at he
      exact he
    state := hs.state }

theorem Service.IgnoresSender.joins {c : Config} (call : Call)
    (hf : ∀ path, c.caBundlePath = some path → file₁ path = file₂ path) :
    (Comparison.apart (h₁.isEmpty_eq h₂) c).Joins c call (.https file₁ service) (.https file₂ service) :=
  fun endpoint payload => h.attempting_apart h₁ h₂ { endpoint, payload, call, config := c } hf

end AccessControl
