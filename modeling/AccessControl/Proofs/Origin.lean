import AccessControl.Transport.Https
import Mathlib

namespace AccessControl

open List (replicate)

theorem toNat_toLower (c : Char) :
    c.toLower.toNat = if 65 ≤ c.toNat ∧ c.toNat ≤ 90 then c.toNat + 32 else c.toNat := by
  simp only [Char.toLower, ge_iff_le, Char.reduceVal, UInt32.le_iff_toNat_le, UInt32.reduceToNat, Char.toNat]
  split
  case isTrue h =>
    simp only [UInt32.toNat_add, UInt32.reduceSub, UInt32.reduceToNat]
    omega
  case isFalse => rfl

theorem toNat_toUpper (c : Char) :
    c.toUpper.toNat = if 97 ≤ c.toNat ∧ c.toNat ≤ 122 then c.toNat - 32 else c.toNat := by
  simp only [Char.toUpper, Char.reduceVal, UInt32.le_iff_toNat_le, UInt32.reduceToNat, Char.toNat]
  split
  case isTrue h =>
    simp only [UInt32.toNat_add, UInt32.reduceSub, UInt32.reduceToNat]
    omega
  case isFalse => rfl

theorem toLower_eq_iff {c m : Char} (h : m.isUpper = false) : c.toLower = m ↔ c = m ∨ c = m.toUpper := by
  have hm : ¬(65 ≤ m.toNat ∧ m.toNat ≤ 90) := by
    simpa only [Char.isUpper, decide_eq_false_iff_not, ge_iff_le, Char.reduceVal, UInt32.le_iff_toNat_le,
      UInt32.reduceToNat, Char.toNat] using h
  simp only [← Char.toNat_inj, toNat_toLower, toNat_toUpper]
  grind

namespace Scheme

-- The mark of a scheme, each letter of it in either case.
def Marks (s : Scheme) (mark : List Char) : Prop :=
  List.Forall₂ (fun c m => c = m ∨ c = m.toUpper) mark s.mark

-- What stands in front of the rest of a text: one mark of a scheme, or nothing if no mark begins the text.
inductive Leads : Scheme → List Char → List Char → Prop
  | marked {s mark rest} (h : s.Marks mark) : Leads s mark rest
  | unmarked {rest} (h : ∀ (s : Scheme) (mark), s.Marks mark → ¬mark <+: rest) : Leads .https [] rest

variable {s s₁ s₂ : Scheme} {mark mark₁ mark₂ rest rest₁ rest₂ : List Char}

theorem isUpper_of_mem_mark {m : Char} (h : m ∈ s.mark) : m.isUpper = false := by
  have ha : s.mark.all (!·.isUpper) = true := by cases s <;> decide +kernel
  simpa using List.all_eq_true.mp ha m h

theorem marks_iff : s.Marks mark ↔ Text.lowerAscii mark = s.mark := by
  have hm (c m : Char) (h : m ∈ s.mark) : (c = m ∨ c = m.toUpper) ↔ c.toLower = m :=
    (toLower_eq_iff <| isUpper_of_mem_mark h).symm
  rw [Marks, Text.lowerAscii, ← List.forall₂_eq_eq_eq, List.forall₂_map_left_iff]
  generalize s.mark = marks at hm
  induction marks generalizing mark
  case nil => simp
  case cons m ms hi =>
    cases mark
    case nil => simp
    case cons c cs => simp [hm, hi fun c n h => hm c n <| .tail m h]

theorem Marks.length (h : s.Marks mark) : mark.length = s.mark.length :=
  h.length_eq

-- The marks of the two schemes differ in their fifth character, so that a text begins with one at most.
theorem Marks.unique (h₁ : s₁.Marks mark₁) (h₂ : s₂.Marks mark₂) (h : mark₁ ++ rest₁ = mark₂ ++ rest₂) :
    s₁ = s₂ ∧ rest₁ = rest₂ := by
  have hl : s₁.mark ++ Text.lowerAscii rest₁ = s₂.mark ++ Text.lowerAscii rest₂ := by
    rw [← marks_iff.mp h₁, ← marks_iff.mp h₂]
    simpa only [Text.lowerAscii, List.map_append] using congrArg Text.lowerAscii h
  have hs : s₁ = s₂ := by
    cases s₁ <;> cases s₂ <;> simp [mark, name] at hl ⊢
  subst hs
  exact ⟨rfl, (List.append_inj h <| h₁.length.trans h₂.length.symm).right⟩

theorem mark_isPrefix {tail : List Char} : s₁.mark <+: s₂.mark ++ tail ↔ s₂ = s₁ := by
  constructor
  case mp =>
    intro ⟨tail', h⟩
    cases s₁ <;> cases s₂ <;> simp [mark, name] at h ⊢
  case mpr =>
    intro h
    exact h ▸ List.prefix_append ..

-- No mark begins with a slash, so that a text of slashes has none.
theorem Marks.not_isPrefix_slashes {n : Nat} (h : s.Marks mark) : ¬mark <+: replicate n '/' := by
  intro hp
  have hm := marks_iff.mp h
  rw [(List.prefix_replicate_iff.mp hp).right, Text.lowerAscii, List.map_replicate] at hm
  have hh : 'h' ∈ s.mark := by cases s <;> decide +kernel
  have hc := List.eq_of_mem_replicate (hm ▸ hh)
  contradiction

namespace Leads

theorem eq_marked (hl : s₁.Leads mark₁ rest₁) (hm : s₂.Marks mark₂) (h : mark₁ ++ rest₁ = mark₂ ++ rest₂) :
    s₁ = s₂ ∧ rest₁ = rest₂ := by
  cases hl
  case marked hm₁ => exact hm₁.unique hm h
  case unmarked hn => exact absurd ⟨rest₂, h.symm⟩ (hn s₂ mark₂ hm)

theorem marked_or_nil (h : s.Leads mark rest) : mark = [] ∨ ∃ s : Scheme, s.Marks mark := by
  cases h
  case marked hm => exact .inr ⟨s, hm⟩
  case unmarked => exact .inl rfl

theorem eq_slashes {n : Nat} (hl : s.Leads mark rest) (h : mark ++ rest = replicate n '/') :
    rest = replicate n '/' := by
  cases hl
  case marked hm => exact absurd ⟨rest, h⟩ hm.not_isPrefix_slashes
  case unmarked => exact h

end Leads
end Scheme

namespace Config

variable {s : Scheme} {text rest mark : List Char}

theorem stripScheme?_eq_some_iff :
    stripScheme? s text = some rest ↔ ∃ mark, s.Marks mark ∧ text = mark ++ rest := by
  unfold stripScheme?
  constructor
  case mp =>
    intro h
    split at h
    case isTrue hm =>
      cases h
      exact ⟨_, Scheme.marks_iff.mpr hm, (List.take_append_drop ..).symm⟩
    case isFalse => contradiction
  case mpr =>
    intro ⟨mark, hm, ht⟩
    rw [ht, ← hm.length, List.take_left, List.drop_left, if_pos <| Scheme.marks_iff.mp hm]

theorem stripScheme?_eq_none_iff :
    stripScheme? s text = none ↔ ∀ mark, s.Marks mark → ¬mark <+: text := by
  rw [Option.eq_none_iff_forall_ne_some]
  simp only [ne_eq, stripScheme?_eq_some_iff]
  grind [List.IsPrefix]

theorem splitScheme_leads (text : List Char) :
    ∃ mark, text = mark ++ (splitScheme text).2 ∧ (splitScheme text).1.Leads mark (splitScheme text).2 := by
  unfold splitScheme
  cases hs : stripScheme? .https text
  case some rest =>
    have ⟨mark, hm, ht⟩ := stripScheme?_eq_some_iff.mp hs
    exact ⟨mark, ht, .marked hm⟩
  case none =>
    cases hp : stripScheme? .http text
    case some rest =>
      have ⟨mark, hm, ht⟩ := stripScheme?_eq_some_iff.mp hp
      exact ⟨mark, ht, .marked hm⟩
    case none =>
      refine ⟨[], rfl, .unmarked fun s mark hm => ?_⟩
      cases s
      case https => exact stripScheme?_eq_none_iff.mp hs mark hm
      case http => exact stripScheme?_eq_none_iff.mp hp mark hm

theorem splitScheme_marked (h : s.Marks mark) : splitScheme (mark ++ rest) = (s, rest) := by
  have ⟨mark', ht, hl⟩ := splitScheme_leads (mark ++ rest)
  have ⟨hs, hr⟩ := hl.eq_marked h ht.symm
  exact Prod.ext hs hr

variable {c : Config}

theorem scheme_eq_http_iff :
    c.scheme = .http ↔ ∃ mark rest, Scheme.http.Marks mark ∧ c.apiUrl.toList = mark ++ rest := by
  unfold scheme
  constructor
  case mp =>
    intro h
    have ⟨mark, ht, hl⟩ := splitScheme_leads c.apiUrl.toList
    rw [h] at hl
    cases hl
    case marked hm => exact ⟨mark, _, hm, ht⟩
  case mpr =>
    intro ⟨mark, rest, hm, ht⟩
    rw [ht, splitScheme_marked hm]

theorem isCleartext_iff : c.isCleartext = true ↔ c.scheme = .http := by
  simp only [isCleartext, Option.isSome_iff_exists, stripScheme?_eq_some_iff, scheme_eq_http_iff]
  grind

theorem scheme_eq_https_iff : c.scheme = .https ↔ c.isCleartext = false := by
  rw [Bool.eq_false_iff, ne_eq, isCleartext_iff]
  cases c.scheme <;> simp

theorem serviceUrl_toList (c : Config) : c.serviceUrl.toList = c.scheme.mark ++ c.host.toList := by
  simp [serviceUrl, Scheme.mark]

theorem mark_isPrefix_serviceUrl : s.mark <+: c.serviceUrl.toList ↔ c.scheme = s := by
  rw [serviceUrl_toList, Scheme.mark_isPrefix]

theorem mark_isPrefix_url {e : Endpoint} : s.mark <+: (e.url c).toList ↔ c.scheme = s := by
  rw [Endpoint.url, String.toList_append, serviceUrl_toList, List.append_assoc, Scheme.mark_isPrefix]

theorem append_slashes (cs : List Char) : ∃ n, cs = dropTrailingSlashes cs ++ replicate n '/' := by
  have hr : cs.rtakeWhile (· == '/') = replicate (cs.rtakeWhile (· == '/')).length '/' :=
    List.eq_replicate_of_mem fun c h => by simpa using List.mem_rtakeWhile_imp h
  exact ⟨_, hr ▸ List.rdropWhile_append_rtakeWhile.symm⟩

theorem dropTrailingSlashes_bare (cs : List Char) : ¬['/'] <:+ dropTrailingSlashes cs := by
  intro ⟨front, h⟩
  have hn := List.rdropWhile_last_not (· == '/') cs
  have hd : front ++ ['/'] = cs.rdropWhile (· == '/') := h
  simp [← hd] at hn

-- How the text of a configuration divides, and what its host is made of.
structure Division (c : Config) (mark host : List Char) (slashes : Nat) : Prop where
  text : c.apiUrl.toList = mark ++ (host ++ replicate slashes '/')
  scheme : c.scheme.Leads mark (host ++ replicate slashes '/')
  bare : ¬['/'] <:+ host
  host : c.host.toList = (c.tenant.elim [] fun tenant => tenant.toList ++ ['.']) ++ host

theorem exists_division (c : Config) : ∃ mark host slashes, c.Division mark host slashes := by
  have ⟨mark, ht, hl⟩ := splitScheme_leads c.apiUrl.toList
  have ⟨slashes, hs⟩ := append_slashes (splitScheme c.apiUrl.toList).2
  refine ⟨mark, dropTrailingSlashes (splitScheme c.apiUrl.toList).2, slashes, ?_⟩
  exact
    { text := hs ▸ ht
      scheme := hs ▸ hl
      bare := dropTrailingSlashes_bare _
      host := by cases h : c.tenant <;> simp [Config.host, h] }

-- A service without a host: no tenant, and at most the mark of a scheme in front of the slashes.
def Hostless (c : Config) : Prop :=
  c.tenant = none ∧ ∃ mark slashes,
    (mark = [] ∨ ∃ s : Scheme, s.Marks mark) ∧ c.apiUrl.toList = mark ++ replicate slashes '/'

-- The place of a service as it is promised: a host behind the scheme, no slash at the end, and one slash in
-- front of the path of an endpoint.
structure WellPlaced (c : Config) : Prop where
  host : c.host ≠ ""
  hostEnd : ¬['/'] <:+ c.host.toList
  form : c.serviceUrl = c.scheme.name ++ "://" ++ c.host
  urlEnd : ¬['/'] <:+ c.serviceUrl.toList
  url : ∀ e : Endpoint, ∃ path, e.url c = c.serviceUrl ++ "/" ++ path ∧ ¬['/'] <+: path.toList

theorem slash_isSuffix_of_append {front back : List Char} (hb : back ≠ []) (h : ['/'] <:+ front ++ back) :
    ['/'] <:+ back :=
  List.suffix_of_suffix_length_le h (List.suffix_append ..) (List.length_pos_iff.mpr hb)

namespace Division

variable {host : List Char} {slashes : Nat}

-- The slashes are all of it if nothing else follows the mark.
theorem host_of_slashes {n : Nat} (d : c.Division mark host slashes)
    (h : host ++ replicate slashes '/' = replicate n '/') : host = [] := by
  by_contra hn
  have hl : host.getLast hn = '/' :=
    List.eq_of_mem_replicate <| h ▸ List.mem_append_left _ (List.getLast_mem hn)
  exact d.bare ⟨host.dropLast, hl ▸ List.dropLast_append_getLast hn⟩

theorem host_eq_nil_iff (d : c.Division mark host slashes) : c.host = "" ↔ c.tenant = none ∧ host = [] := by
  rw [← String.toList_inj, d.host]
  cases c.tenant <;> simp

end Division

theorem hostless_iff : c.Hostless ↔ c.host = "" := by
  have ⟨mark, host, slashes, d⟩ := exists_division c
  rw [d.host_eq_nil_iff]
  constructor
  case mp =>
    intro ⟨hc, mark', n, hm, ht⟩
    rw [d.text] at ht
    refine ⟨hc, d.host_of_slashes (n := n) ?_⟩
    rcases hm with rfl | ⟨s, hm⟩
    case inl => exact d.scheme.eq_slashes ht
    case inr => exact (d.scheme.eq_marked hm ht).right
  case mpr =>
    intro ⟨hc, hh⟩
    subst hh
    exact ⟨hc, mark, slashes, d.scheme.marked_or_nil, d.text⟩

theorem url_rooted (c : Config) (e : Endpoint) :
    ∃ path, e.url c = c.serviceUrl ++ "/" ++ path ∧ ¬['/'] <+: path.toList := by
  have ⟨path, hp, hr⟩ : ∃ path, e.path = "/" ++ path ∧ ¬['/'] <+: path.toList := by
    cases e
    case evaluations => exact ⟨"access/v2/evaluations", by decide +kernel⟩
    case search => exact ⟨"access/v2/search", by decide +kernel⟩
  exact ⟨path, by rw [Endpoint.url, hp, String.append_assoc], hr⟩

theorem wellPlaced_of_host (h : c.host ≠ "") : c.WellPlaced := by
  have ⟨mark, host, slashes, d⟩ := exists_division c
  have hn : c.host.toList ≠ [] := by simpa using h
  have he : ¬['/'] <:+ c.host.toList := by
    intro hs
    by_cases hh : host = []
    case pos =>
      cases ht : c.tenant <;> simp [d.host, hh, ht, List.singleton_suffix_iff_getLast?_eq_some] at hs
    case neg => exact d.bare <| slash_isSuffix_of_append hh <| d.host ▸ hs
  exact
    { host := h
      hostEnd := he
      form := rfl
      urlEnd := fun hs => he <| slash_isSuffix_of_append hn <| c.serviceUrl_toList ▸ hs
      url := c.url_rooted }

theorem wellPlaced_iff (c : Config) :
    (c.WellPlaced ↔ ¬c.Hostless) ∧ (c.Hostless → c.host = "" ∧ c.serviceUrl.toList = c.scheme.mark) := by
  constructor
  case left =>
    constructor
    case mp => exact fun w h => w.host <| hostless_iff.mp h
    case mpr => exact fun h => wellPlaced_of_host <| mt hostless_iff.mpr h
  case right =>
    intro h
    have hh := hostless_iff.mp h
    exact ⟨hh, by simp [serviceUrl_toList, hh]⟩

-- A scheme alone can be used as far as the checks go, and its requests go to the first part of their path.
theorem not_wellPlaced_scheme :
    let c : Config := { apiUrl := "https://", apiToken := "t" }
    c.isValid = true ∧ c.host = "" ∧ c.serviceUrl = "https://" ∧
      Endpoint.evaluations.url c = "https:///access/v2/evaluations" ∧
      (Http.Url.read? (Endpoint.evaluations.url c)).map (·.host.text) = some "access" ∧ ¬c.WellPlaced := by
  have hh : ({ apiUrl := "https://", apiToken := "t" } : Config).host = "" := by decide +kernel
  exact ⟨by decide +kernel, hh, by decide +kernel, by decide +kernel, by decide +kernel, fun w => w.host hh⟩

end Config

namespace Http.Url

variable {s : Scheme} {tail cs : List Char} {url : Url}

theorem scheme_of_readRest (h : readRest? s cs = some url) : url.scheme = s := by
  simp only [readRest?, Option.bind_eq_bind, Option.bind_eq_some_iff] at h
  have ⟨_, _, _, _, hu⟩ := h
  cases hu
  rfl

-- Blanks and breaks take nothing from the mark of a scheme at the front of a text.
theorem visible_marked (s : Scheme) (tail : List Char) : ∃ rest, visible (s.mark ++ tail) = s.mark ++ rest := by
  let isEdge (c : Char) : Bool := c.toNat ≤ 0x20
  let isKept (c : Char) : Bool := c != '\t' && c != '\n' && c != '\r'
  have hf : (s.mark ++ tail).dropWhile isEdge = s.mark ++ tail := by cases s <;> rfl
  have hk : s.mark.filter isKept = s.mark := by cases s <;> rfl
  have hb : s.mark.rdropWhile isEdge = s.mark := by cases s <;> rfl
  have ⟨rest, hr⟩ : ∃ rest, (s.mark ++ tail).rdropWhile isEdge = s.mark ++ rest := by
    rw [List.rdropWhile, List.reverse_append, List.dropWhile_append]
    split
    case isTrue => exact ⟨[], by simpa [List.rdropWhile] using hb⟩
    case isFalse => exact ⟨_, by rw [List.reverse_append, List.reverse_reverse]⟩
  have hv : visible (s.mark ++ tail) = ((s.mark ++ tail).rdropWhile isEdge).filter isKept := by
    rw [visible, hf, List.rdropWhile]
  exact ⟨rest.filter isKept, by rw [hv, hr, List.filter_append, hk]⟩

theorem scheme_of_read {text : String} (ht : text.toList = s.mark ++ tail) (h : read? text = some url) :
    url.scheme = s := by
  have ⟨rest, hv⟩ := visible_marked s tail
  rw [read?, ht, hv] at h
  cases s
  case https => exact scheme_of_readRest h
  case http => exact scheme_of_readRest h

end Http.Url

namespace Config

theorem scheme_of_read_url {c : Config} {e : Endpoint} {url : Http.Url}
    (h : Http.Url.read? (e.url c) = some url) : url.scheme = c.scheme := by
  have ht : (e.url c).toList = c.scheme.mark ++ (c.host.toList ++ e.path.toList) := by
    rw [Endpoint.url, String.toList_append, serviceUrl_toList, List.append_assoc]
  exact Http.Url.scheme_of_read ht h

-- The same text, but for the letter case of the mark it begins with.
def Recased (c c' : Config) : Prop :=
  ∃ (s : Scheme) (mark mark' rest : List Char), s.Marks mark ∧ s.Marks mark' ∧
    c.apiUrl.toList = mark ++ rest ∧ c' = { c with apiUrl := .ofList (mark' ++ rest) }

variable {c c' : Config}

theorem Recased.scheme_host (h : c.Recased c') : c'.scheme = c.scheme ∧ c'.host = c.host := by
  have ⟨s, mark, mark', rest, hm, hm', ht, hc⟩ := h
  have hs : splitScheme c'.apiUrl.toList = splitScheme c.apiUrl.toList := by
    rw [ht, splitScheme_marked hm, hc, String.toList_ofList, splitScheme_marked hm']
  have hn : c'.tenant = c.tenant := hc ▸ rfl
  exact ⟨congrArg Prod.fst hs, by simp only [host, hs, hn]⟩

theorem Recased.isCleartext (h : c.Recased c') : c'.isCleartext = c.isCleartext := by
  rw [Bool.eq_iff_iff, isCleartext_iff, isCleartext_iff, h.scheme_host.left]

theorem Recased.serviceUrl (h : c.Recased c') : c'.serviceUrl = c.serviceUrl := by
  rw [Config.serviceUrl, h.scheme_host.left, h.scheme_host.right]
  rfl

end Config

namespace Transport

variable {σ : Type} {file : Volume.Reader} {service service' : Service σ} {a : Attempt}

-- No more than the scheme https is asked of the service by a configuration that is not cleartext.
theorem https_encrypted (hc : a.config.isCleartext = false)
    (h : ∀ (url : Http.Url) request, url.scheme = .https →
      service.deliver url request = service'.deliver url request) :
    (https file service).send a = (https file service').send a := by
  simp only [https]
  cases hr : Http.Url.read? a.url
  case none => rfl
  case some url =>
    have hs : url.scheme = .https := by
      rw [Config.scheme_of_read_url hr]
      exact Config.scheme_eq_https_iff.mpr hc
    have hd : deliver service a url = deliver service' a url := by simp only [deliver, h url _ hs]
    cases Http.isHeaderText a.config.apiToken
    case false => rfl
    case true => simp only [hd]

end Transport

namespace Config

theorem origin_agrees (c : Config) :
    (c.scheme = .http ↔ c.isCleartext = true) ∧
    (c.scheme = .http ↔ "http://".toList <+: c.serviceUrl.toList) ∧
    (c.scheme = .http ↔ ∃ mark rest, Scheme.http.Marks mark ∧ c.apiUrl.toList = mark ++ rest) ∧
    (c.scheme ≠ .http → c.scheme = .https ∧ "https://".toList <+: c.serviceUrl.toList) ∧
    (∃ mark host slashes, c.Division mark host slashes ∧ c.serviceUrl = c.scheme.name ++ "://" ++ c.host) ∧
    (∀ c', c.Recased c' → c'.scheme = c.scheme ∧ c'.host = c.host ∧ c'.serviceUrl = c.serviceUrl ∧
      c'.isCleartext = c.isCleartext) ∧
    (∀ (e : Endpoint) url, Http.Url.read? (e.url c) = some url → url.scheme = c.scheme) ∧
    (c.isCleartext = false → ∀ (σ : Type) (file : Volume.Reader) (service service' : Service σ),
      (∀ (url : Http.Url) request, url.scheme = .https →
        service.deliver url request = service'.deliver url request) →
      ∀ a : Attempt, a.config = c →
        (Transport.https file service).send a = (Transport.https file service').send a) := by
  refine ⟨isCleartext_iff.symm, mark_isPrefix_serviceUrl.symm, scheme_eq_http_iff, ?plain, ?division, ?recased,
    fun _ _ => scheme_of_read_url, ?sent⟩
  case plain =>
    intro h
    have hs : c.scheme = .https := by cases hs : c.scheme <;> trivial
    exact ⟨hs, mark_isPrefix_serviceUrl.mpr hs⟩
  case division =>
    have ⟨mark, host, slashes, d⟩ := c.exists_division
    exact ⟨mark, host, slashes, d, rfl⟩
  case recased => exact fun c' h => ⟨h.scheme_host.left, h.scheme_host.right, h.serviceUrl, h.isCleartext⟩
  case sent => exact fun hc σ file service service' h a ha => Transport.https_encrypted (ha ▸ hc) h

-- The first mark goes and the second one stays, with all the slashes but those at the end.
example :
    let c : Config := { apiUrl := "hTTp://https://x///", tenant := some "acme" }
    c.scheme = .http ∧ c.host = "acme.https://x" := by
  decide +kernel

end Config
end AccessControl
