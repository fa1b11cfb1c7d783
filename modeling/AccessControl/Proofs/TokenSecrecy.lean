import AccessControl.Proofs.Loading
import AccessControl.Proofs.Masked
import AccessControl.Proofs.Utf8

namespace AccessControl

open Json

-- A string that is not empty, with its quotes, in well-formed UTF-8.
inductive TextLiteral : Bytes → Prop
  | intro {body : Bytes} {v : String} (h : readString body = .ok (v, [])) (hv : v.isEmpty = false)
    (hu : (Utf8.decode? (0x22 :: body)).isSome = true) : TextLiteral (0x22 :: body)

inductive NumberLiteral : Bytes → Prop
  | natural {w : Bytes} (h : skipNumber w = .ok []) : NumberLiteral w
  | negative {w : Bytes} (h : skipNumber w = .ok []) : NumberLiteral (0x2D :: w)

theorem textLiteral_written {v : String} (hv : v.isEmpty = false) :
    TextLiteral (Utf8.encode (stringChars v)) := by
  have he : Utf8.encode (stringChars v) = 0x22 :: Utf8.encode (afterQuote v) := rfl
  have hr : readString (Utf8.encode (afterQuote v) ++ []) = .ok (v, []) := readString_written v
  have hd := Utf8.decode?_encode (stringChars v)
  rw [List.append_nil] at hr
  rw [he] at hd ⊢
  exact .intro hr hv (hd ▸ rfl)

namespace TokenPlace

variable {p : TokenPlace} {b : UInt8} {w body l₁ l₂ : Bytes}

-- Bytes that are, with `back` after them, a value without brackets.
structure IsScalar (back : Bytes) (b : UInt8) (body : Bytes) : Prop where
  blank : isBlankByte b = false
  list : b ≠ 0x5B
  object : b ≠ 0x7B
  null : b ≠ 0x6E
  ascii : b ≤ 0x7F
  skip : skipScalar b (body ++ back) = .ok back
  decodes : (Utf8.decode? (b :: body)).isSome = true

namespace IsScalar

variable (h : IsScalar p.back b body)
include h

theorem skipBlanks_value : skipBlanks (p.value (b :: body)) = b :: (body ++ p.back) := by
  rw [value, skipBlanks_blank p.blank₂]
  exact skipBlanks_cons h.blank

theorem skipFrom_value (fuel : Nat) (stack : List Bracket) :
    skipFrom (fuel + 1) .value stack (p.value (b :: body)) = skipOn fuel stack p.back := by
  rw [Json.skipFrom_value, h.skipBlanks_value]
  simp only [if_neg h.list, if_neg h.object, h.skip]
  rfl

theorem readOptional_value {item : Bytes → Read α} :
    readOptional item (p.value (b :: body)) =
      (item (p.value (b :: body))).map fun (v, rest) => (some v, rest) := by
  rw [readOptional, h.skipBlanks_value]
  exact if_neg h.null

theorem isSome_decode?_value :
    (Utf8.decode? (b :: body ++ p.back)).isSome = (Utf8.decode? p.back).isSome :=
  Utf8.isSome_decode?_append h.decodes

end IsScalar

theorem isScalar_of_text {v : String} (hr : readString body = .ok (v, []))
    (hu : (Utf8.decode? (0x22 :: body)).isSome = true) (back : Bytes) : IsScalar back 0x22 body where
  blank := rfl
  list := by decide
  object := by decide
  null := by decide
  ascii := by decide
  skip := skipString_append_of_ok back <| skipString_of_readStringFrom hr
  decodes := hu

theorem isScalar_of_literal (h : TextLiteral w) (back : Bytes) :
    ∃ b body, w = b :: body ∧ IsScalar back b body := by
  cases h
  case intro hr hv hu => exact ⟨_, _, rfl, isScalar_of_text hr hu back⟩

theorem readText_value {v : String} (hr : readString body = .ok (v, [])) (h : IsScalar p.back 0x22 body) :
    readText .text (p.value (0x22 :: body)) = .ok (v, p.back) := by
  rw [readText, h.skipBlanks_value]
  exact readString_append p.back hr

theorem foundAt_digit (h : isDigit b = true) (w : Bytes) :
    foundAt b w = (readNumber false (b :: w)).map fun (n, _) => .number n := by
  simp only [foundAt, if_neg (ne_of_isDigit h (c := 0x6E) rfl), if_neg (ne_of_isDigit h (c := 0x74) rfl),
    if_neg (ne_of_isDigit h (c := 0x66) rfl), if_neg (ne_of_isDigit h (c := 0x22) rfl),
    if_neg (ne_of_isDigit h (c := 0x2D) rfl), if_pos h]

-- A number is refused where a string is called for, and all that follows it is left out of the refusal.
structure IsNumeral (back : Bytes) (b : UInt8) (body : Bytes) : Prop extends IsScalar back b body where
  quote : b ≠ 0x22
  found : foundAt b (body ++ back) = foundAt b body

theorem IsNumeral.readText_value (h : IsNumeral p.back b body) :
    readText .text (p.value (b :: body)) = .error (mismatch .text (b :: body)) := by
  have hv := h.skipBlanks_value (p := p)
  have hb : skipBlanks (b :: body) = b :: body := skipBlanks_cons h.blank
  rw [readText, hv]
  simp only [if_neg h.quote, mismatch_eq, hv, hb, h.found]

theorem found_of_map_fst {x y : Read Number} (h : x.map Prod.fst = y.map Prod.fst) :
    (x.map fun (n, _) => Found.number n) = y.map fun (n, _) => Found.number n := by
  cases x <;> cases y <;> simp_all [Except.map]

theorem isNumeral_of_number {back : Bytes} (h : NumberLiteral w) (hq : EndsNumber back) :
    ∃ b body, w = b :: body ∧ IsNumeral back b body := by
  cases h
  case negative w h =>
    have hp := passed_of_skipNumber h
    refine ⟨0x2D, w, rfl, ?_⟩
    exact {
      blank := rfl, list := by decide, object := by decide, null := by decide, ascii := by decide
      quote := by decide
      skip := skipNumber_append h hq
      found := found_of_map_fst <| readNumber_append h true hq
      decodes := Utf8.isSome_decode?_ascii <|
        List.forall_mem_cons.mpr ⟨by decide, fun b hb => (hp b hb).ascii⟩ }
  case natural h =>
    have hp := passed_of_skipNumber h
    cases w
    case nil => contradiction
    case cons b body =>
      have hd := isDigit_of_skipNumber h
      refine ⟨b, body, rfl, ?_⟩
      exact {
        blank := isBlankByte_of_isDigit hd
        list := ne_of_isDigit hd rfl, object := ne_of_isDigit hd rfl, null := ne_of_isDigit hd rfl
        quote := ne_of_isDigit hd rfl
        ascii := (isPassed_of_isDigit hd).ascii
        skip := (skipScalar_digit hd _).trans <| skipNumber_append h hq
        found := by
          rw [foundAt_digit hd, foundAt_digit hd]
          exact found_of_map_fst <| readNumber_append h false hq
        decodes := Utf8.isSome_decode?_ascii fun b hb => (hp b hb).ascii }

theorem found_of_skipNumber (negative : Bool) (h : skipNumber w = .ok []) :
    ((readNumber negative w).map fun (n, _) => Found.number n) = .error .numberOutOfRange ∨
      ∃ n, ((readNumber negative w).map fun (n, _) => Found.number n) = .ok (.number n) := by
  have hr := reaches_readNumber negative h
  generalize readNumber negative w = x at hr ⊢
  cases hr
  case number n => exact .inr ⟨n, rfl⟩
  case tooLarge => exact .inl rfl

-- The refusal shows the number, unless it is too large to hold.
theorem mismatch_of_number (h : NumberLiteral w) :
    mismatch .text w = .numberOutOfRange ∨ ∃ n, mismatch .text w = .wrongType (.number n) .text := by
  have ⟨b, body, hw, hn⟩ := isNumeral_of_number h .nil
  have hs : skipBlanks w = b :: body := hw ▸ skipBlanks_cons hn.blank
  have hf : foundAt b body = .error .numberOutOfRange ∨ ∃ n, foundAt b body = .ok (.number n) := by
    cases h
    case negative h =>
      cases hw
      exact found_of_skipNumber true h
    case natural h =>
      subst hw
      rw [foundAt_digit (isDigit_of_skipNumber h)]
      exact found_of_skipNumber false h
  rw [mismatch_eq, hs]
  rcases hf with he | ⟨n, hn⟩
  · exact .inl (by simp only [he])
  · exact .inr ⟨n, by simp only [hn]⟩

theorem skipFrom_values {b₁ b₂ : UInt8} {body₁ body₂ : Bytes} (h₁ : IsScalar p.back b₁ body₁)
    (h₂ : IsScalar p.back b₂ body₂) (fuel : Nat) (stack : List Bracket) :
    skipFrom fuel .value stack (p.value (b₁ :: body₁)) =
      skipFrom fuel .value stack (p.value (b₂ :: body₂)) := by
  cases fuel
  case zero => rfl
  case succ => rw [h₁.skipFrom_value, h₂.skipFrom_value]

theorem sealed_text : TextLiteral l₁ → TextLiteral l₂ → Sealed Eq (p.value l₁) (p.value l₂)
  | .intro hr₁ hv₁ hu₁, .intro hr₂ hv₂ hu₂ => by
    have h₁ := isScalar_of_text hr₁ hu₁ p.back
    have h₂ := isScalar_of_text hr₂ hu₂ p.back
    refine { skip := skipFrom_values h₁ h₂, read := ?_, refl := fun _ => rfl }
    rw [h₁.readOptional_value, h₂.readOptional_value, readText_value hr₁ h₁, readText_value hr₂ h₂]
    refine .ok (.intro ?_)
    simp [Settings.maskToken, hv₁, hv₂]

theorem sealed_number (hq : EndsNumber p.back) (h₁ : NumberLiteral l₁) (h₂ : NumberLiteral l₂) :
    Sealed (fun e₁ e₂ => e₁ = e₂ ∨ e₁ = mismatch .text l₁ ∧ e₂ = mismatch .text l₂)
      (p.value l₁) (p.value l₂) := by
  obtain ⟨b₁, body₁, rfl, hn₁⟩ := isNumeral_of_number h₁ hq
  obtain ⟨b₂, body₂, rfl, hn₂⟩ := isNumeral_of_number h₂ hq
  refine { skip := skipFrom_values hn₁.toIsScalar hn₂.toIsScalar, read := ?_, refl := fun _ => .inl rfl }
  rw [hn₁.readOptional_value, hn₂.readOptional_value, hn₁.readText_value, hn₂.readText_value]
  exact .error (.inr ⟨rfl, rfl⟩)

theorem fill_cons (b : UInt8) (body : Bytes) :
    p.fill (b :: body) = p.front ++ 0x22 :: p.opening ++ p.gap₂ ++ b :: (body ++ p.back) := by
  simp [fill, value]

theorem isSome_decode?_fill {b₁ b₂ : UInt8} {body₁ body₂ : Bytes} (h₁ : IsScalar p.back b₁ body₁)
    (h₂ : IsScalar p.back b₂ body₂) :
    (Utf8.decode? (p.fill (b₁ :: body₁))).isSome = (Utf8.decode? (p.fill (b₂ :: body₂))).isSome := by
  rw [fill_cons, fill_cons]
  exact Utf8.isSome_decode?_after h₁.ascii h₂.ascii
    (h₁.isSome_decode?_value.trans h₂.isSome_decode?_value.symm) _

section Load

variable {D : ConfigError → ConfigError → Prop} {E : ReadError → ReadError → Prop}
  (hs : Sealed E (p.value l₁) (p.value l₂)) (hr : ∀ e, D e e)
  (hE : ∀ {e₁ e₂}, E e₁ e₂ → D (.parse e₁) (.parse e₂)) (hl : l₁.length = l₂.length)
  (hu : (Utf8.decode? (p.fill l₁)).isSome = (Utf8.decode? (p.fill l₂)).isSome)
  {file₁ file₂ : Volume.Reader}
include hs hr hE hl hu

theorem load_alike {path : String} (h₁ : file₁ path = .ok (p.fill l₁)) (h₂ : file₂ path = .ok (p.fill l₂)) :
    Alike D (fun s t => s.masked = t.masked) (Settings.load file₁ path) (Settings.load file₂ path) := by
  have hn : (p.fill l₁).length = (p.fill l₂).length := by simp [fill, value, hl]
  have hd : (Utf8.decode? (p.fill l₁)).isNone = (Utf8.decode? (p.fill l₂)).isNone := by
    rw [← Option.not_isSome, ← Option.not_isSome, hu]
  have hv : (p.value l₁).length = (p.value l₂).length := by simp [value, hl]
  have ht := ofText_alike (p := p) hs (leads_of_between p.between) hv
  rw [Settings.load, Settings.load]
  cases Settings.checkPath path
  case error f => exact .error (hr _)
  case ok =>
    dsimp only
    rw [h₁, h₂]
    dsimp only
    rw [hn, hd]
    split_ifs
    · exact .error (hr _)
    · exact .error (hr _)
    · rw [← fill, ← fill] at ht
      generalize Settings.ofText (p.fill l₁) = x, Settings.ofText (p.fill l₂) = y at ht ⊢
      cases ht
      case error he => exact .error (hE he)
      case ok hm => exact .ok hm

end Load

end TokenPlace

namespace Config

variable {s t : Settings}

theorem isEmpty_maskToken (token : String) : (Settings.maskToken token).isEmpty = token.isEmpty := by
  rw [Settings.maskToken]
  split_ifs with h
  · exact h ▸ rfl
  · rw [Bool.not_eq_true _ |>.mp h]
    rfl

theorem isEmpty_resolve_map (override setting : Option String) :
    (resolve override (setting.map Settings.maskToken) "").isEmpty =
      (resolve override setting "").isEmpty := by
  cases override
  case some => rfl
  case none =>
    cases setting
    case none => rfl
    case some token => exact isEmpty_maskToken token

theorem isEmpty_apiToken_masked (s : Settings) (env : Environment) :
    (ofSettings s.masked env).apiToken.isEmpty = (ofSettings s env).apiToken.isEmpty := by
  have ht : s.masked.token = s.token.map Settings.maskToken := by
    rw [Settings.token, Settings.token, Settings.masked]
    cases s.apiToken <;> rfl
  change (resolve _ s.masked.token "").isEmpty = (resolve _ s.token "").isEmpty
  rw [ht]
  exact isEmpty_resolve_map _ s.token

-- Whether a configuration is valid does not depend on what its token is.
theorem validate_of_masked (h : s.masked = t.masked) (env : Environment) :
    (ofSettings s env).validate = (ofSettings t env).validate := by
  have hu : s.masked.apiUrl = t.masked.apiUrl := congrArg Settings.apiUrl h
  have hu : (ofSettings s env).apiUrl = (ofSettings t env).apiUrl := congrArg (resolve _ · _) hu
  have ht : (ofSettings s env).apiToken.isEmpty = (ofSettings t env).apiToken.isEmpty := by
    rw [← isEmpty_apiToken_masked, h, isEmpty_apiToken_masked]
  rw [validate, validate, hu, ht]

end Config

namespace Resolver

variable {D : ConfigError → ConfigError → Prop} {r : Resolver} {file₁ file₂ : Volume.Reader}

theorem readConfig_alike (hr : ∀ e, D e e)
    (h : Alike D (fun s t => s.masked = t.masked) (Settings.load file₁ r.path)
      (Settings.load file₂ r.path)) :
    Alike D (fun _ _ => True) (r.readConfig file₁) (r.readConfig file₂) := by
  cases h₁ : Settings.load file₁ r.path <;> cases h₂ : Settings.load file₂ r.path <;> rw [h₁, h₂] at h <;>
    cases h
  case error.error h =>
    rw [readConfig_of_load_error h₁, readConfig_of_load_error h₂]
    exact .error h
  case ok.ok s t h =>
    rw [readConfig_of_load h₁, readConfig_of_load h₂, Config.validate_of_masked h]
    cases (Config.ofSettings t r.environment).validate
    case error e => exact .error (hr e)
    case ok => exact .ok trivial

-- A failure of the one load is a failure of the other, and the log is told the same of it.
structure SameFailure (r : Resolver) (time : Nat) (file₁ file₂ : Volume.Reader) : Prop where
  error : ∀ e, (r.tryLoad file₁).1 = .error e ↔ (r.tryLoad file₂).1 = .error e
  events : (r.load file₁ time).2.1 = (r.load file₂ time).2.1

theorem tryLoad_fst (r : Resolver) (file : Volume.Reader) : (r.tryLoad file).1 = r.readConfig file := by
  rw [tryLoad]
  cases r.readConfig file <;> rfl

theorem tryLoad_of_content {file : Volume.Reader} {content : Bytes}
    (hp : Settings.checkPath r.path = .ok ()) (hf : file r.path = .ok content)
    (hs : content.length ≤ Settings.maxFileSize) (hu : (Utf8.decode? content).isSome = true) :
    (r.tryLoad file).1 =
      ((Settings.ofText content).mapError .parse).bind fun settings =>
        (Config.ofSettings settings r.environment).validate.map fun _ =>
          Config.ofSettings settings r.environment := by
  have hl := Settings.load_of_content hp hf hs hu
  rw [tryLoad_fst]
  cases ht : Settings.ofText content <;> rw [ht] at hl
  case error => exact readConfig_of_load_error hl
  case ok => exact readConfig_of_load hl

theorem sameFailure_of_alike (time : Nat)
    (h : Alike Eq (fun _ _ => True) (r.readConfig file₁) (r.readConfig file₂)) :
    r.SameFailure time file₁ file₂ := by
  cases h₁ : r.readConfig file₁ <;> cases h₂ : r.readConfig file₂ <;> rw [h₁, h₂] at h <;> cases h
  case error.error h =>
    subst h
    refine { error := fun e => ?_, events := ?_ }
    · rw [tryLoad_fst, tryLoad_fst, h₁, h₂]
    · rw [load_of_readConfig_error time h₁, load_of_readConfig_error time h₂]
  case ok.ok =>
    refine { error := fun e => ?_, events := ?_ }
    · rw [tryLoad_fst, tryLoad_fst, h₁, h₂]
      exact ⟨nofun, nofun⟩
    · rw [load_of_readConfig time h₁, load_of_readConfig time h₂]

theorem sameFailure_or_of_alike {e₁ e₂ : ConfigError} (time : Nat)
    (h : Alike (fun c₁ c₂ => c₁ = c₂ ∨ c₁ = e₁ ∧ c₂ = e₂) (fun _ _ => True)
      (r.readConfig file₁) (r.readConfig file₂)) :
    r.SameFailure time file₁ file₂ ∨ (r.tryLoad file₁).1 = .error e₁ ∧ (r.tryLoad file₂).1 = .error e₂ := by
  rw [tryLoad_fst, tryLoad_fst]
  by_cases hq : r.readConfig file₁ = .error e₁ ∧ r.readConfig file₂ = .error e₂
  case pos => exact .inr hq
  case neg =>
    refine .inl <| sameFailure_of_alike time ?_
    generalize r.readConfig file₁ = x, r.readConfig file₂ = y at h hq ⊢
    cases h
    case ok => exact .ok trivial
    case error h =>
      rcases h with he | ⟨he₁, he₂⟩
      · exact .error he
      · exact absurd ⟨congrArg _ he₁, congrArg _ he₂⟩ hq

-- The token may be any string, or any number in a text that fails to load for another reason: a failed load
-- tells nothing of it but its length. A number that is refused for its type is quoted.
theorem failure_independent_of_token (r : Resolver) (p : TokenPlace) (time : Nat) {l₁ l₂ : Bytes}
    (hl : l₁.length = l₂.length) (h₁ : file₁ r.path = .ok (p.fill l₁))
    (h₂ : file₂ r.path = .ok (p.fill l₂)) :
    (TextLiteral l₁ → TextLiteral l₂ → r.SameFailure time file₁ file₂) ∧
      (NumberLiteral l₁ → NumberLiteral l₂ → EndsNumber p.back →
        r.SameFailure time file₁ file₂ ∨
          (r.tryLoad file₁).1 = .error (.parse (mismatch .text l₁)) ∧
            (r.tryLoad file₂).1 = .error (.parse (mismatch .text l₂))) := by
  refine ⟨fun ht₁ ht₂ => ?_, fun hn₁ hn₂ hq => ?_⟩
  · have hs := p.sealed_text ht₁ ht₂
    obtain ⟨b₁, body₁, rfl, hc₁⟩ := TokenPlace.isScalar_of_literal ht₁ p.back
    obtain ⟨b₂, body₂, rfl, hc₂⟩ := TokenPlace.isScalar_of_literal ht₂ p.back
    have hd := TokenPlace.isSome_decode?_fill hc₁ hc₂
    have ha := TokenPlace.load_alike hs (fun _ => rfl) (congrArg _) hl hd h₁ h₂
    exact sameFailure_of_alike time <| readConfig_alike (fun _ => rfl) ha
  · have hs := p.sealed_number hq hn₁ hn₂
    obtain ⟨b₁, body₁, rfl, hc₁⟩ := TokenPlace.isNumeral_of_number hn₁ hq
    obtain ⟨b₂, body₂, rfl, hc₂⟩ := TokenPlace.isNumeral_of_number hn₂ hq
    have hd := TokenPlace.isSome_decode?_fill hc₁.toIsScalar hc₂.toIsScalar
    refine sameFailure_or_of_alike time <| readConfig_alike (fun _ => .inl rfl) <|
      TokenPlace.load_alike hs (fun _ => .inl rfl) (fun h => ?_) hl hd h₁ h₂
    exact h.imp (congrArg _) (And.imp (congrArg _) (congrArg _))

-- A text that gives a token and nothing else.
def tokenAlone : TokenPlace where
  front := [0x7B]
  key := Utf8.encodeString "api_token\""
  gap₁ := []
  gap₂ := []
  back := [0x7D]
  setting := .apiToken
  between := .byte (by decide) .nil
  isToken := .inl rfl
  named := by decide +kernel
  blank₁ := nofun
  blank₂ := nofun

theorem failure_independent_of_token_alone :
    let r : Resolver := { path := "/c", environment := .process [] }
    let file (literal : Bytes) : Volume.Reader := fun _ => .ok (tokenAlone.fill literal)
    let text (v : String) : Bytes := Utf8.encode (stringChars v)
    let number (n : String) : Bytes := Utf8.encodeString n
    r.SameFailure 0 (file (text "s3cret")) (file (text "hidden")) ∧
      (r.tryLoad (file (text "s3cret"))).1 = .error (.invalid .missingApiUrl) ∧
      (r.SameFailure 0 (file (number "12345")) (file (number "67890")) ∨
        (r.tryLoad (file (number "12345"))).1 = .error (.parse (mismatch .text (number "12345"))) ∧
          (r.tryLoad (file (number "67890"))).1 = .error (.parse (mismatch .text (number "67890")))) := by
  intro r file text number
  have hs : (text "s3cret").length = (text "hidden").length := by decide +kernel
  have hn : (number "12345").length = (number "67890").length := by decide +kernel
  refine ⟨?_, ?_, ?_⟩
  · exact (failure_independent_of_token r tokenAlone 0 hs rfl rfl).1
      (textLiteral_written rfl) (textLiteral_written rfl)
  · rw [tryLoad_of_content Settings.checkPath_c rfl (by decide +kernel) (by decide +kernel)]
    decide +kernel
  · exact (failure_independent_of_token r tokenAlone 0 hn rfl rfl).2
      (.natural (by decide +kernel)) (.natural (by decide +kernel)) (.cons rfl (by decide) rfl)

-- Two numbers of one length in the place of the token: each is in the message.
theorem tryLoad_quotes_number :
    let r : Resolver := { path := "/c", environment := .process [] }
    let file (literal : String) : Volume.Reader :=
      fun _ => .ok (tokenAlone.fill (Utf8.encodeString literal))
    NumberLiteral (Utf8.encodeString "12345") ∧ NumberLiteral (Utf8.encodeString "67890") ∧
      (r.tryLoad (file "12345")).1.mapError ConfigError.message =
        .error "config parse error: invalid type: integer `12345`, expected a string" ∧
      (r.tryLoad (file "67890")).1.mapError ConfigError.message =
        .error "config parse error: invalid type: integer `67890`, expected a string" := by
  intro r file
  refine ⟨.natural (by decide +kernel), .natural (by decide +kernel), ?_, ?_⟩
  all_goals
    rw [tryLoad_of_content Settings.checkPath_c rfl (by decide +kernel) (by decide +kernel)]
    decide +kernel

end Resolver

end AccessControl
