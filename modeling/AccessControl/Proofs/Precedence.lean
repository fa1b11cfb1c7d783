import AccessControl.Config.Basic
import AccessControl.Proofs.DecimalText

namespace AccessControl

namespace Text

-- The words that switch a flag on. Any other text switches it off.
def switchWords : List (List Char) :=
  ["1", "true", "yes", "on"].map String.toList

-- The text is one of these words in any case, with nothing but blanks at its ends.
def SwitchesOn (text : String) : Prop :=
  ∃ before word after, text.toList = before ++ (word ++ after) ∧ word.map Char.toLower ∈ switchWords ∧
    (∀ c ∈ before, isBlank c = true) ∧ ∀ c ∈ after, isBlank c = true

theorem toLower_of_isBlank {c : Char} (h : isBlank c = true) : c.toLower = c := by
  unfold Char.toLower
  split
  case isFalse => rfl
  case isTrue hu =>
    have hn : 65 ≤ c.toNat ∧ c.toNat ≤ 90 := hu
    simp only [isBlank, Bool.or_eq_true, Bool.and_eq_true, decide_eq_true_eq, beq_iff_eq] at h
    omega

theorem not_isBlank_of_switchWord {word : List Char} (h : word.map Char.toLower ∈ switchWords) :
    ∀ c ∈ word, isBlank c = false := by
  intro c hc
  by_contra hb
  rw [Bool.not_eq_false] at hb
  have hw : (switchWords.all fun w => w.all fun c => !isBlank c) = true := by decide +kernel
  have hn := List.all_eq_true.mp (List.all_eq_true.mp hw _ h) c.toLower (List.mem_map_of_mem hc)
  rw [toLower_of_isBlank hb, hb] at hn
  contradiction

end Text

theorem parseFlag_iff {text : String} : parseFlag text = true ↔ Text.SwitchesOn text := by
  have hp : parseFlag text = true ↔ (Text.trimChars text.toList).map Char.toLower ∈ Text.switchWords := by
    unfold parseFlag Text.lowerAscii
    generalize (Text.trimChars text.toList).map Char.toLower = word
    simp [Text.switchWords, ← String.toList_inj, or_assoc]
  rw [hp]
  constructor
  case mp =>
    intro h
    have ⟨before, after, ht, hb, ha⟩ := Text.exists_trimChars text.toList
    exact ⟨before, _, after, ht, h, hb, ha⟩
  case mpr =>
    intro ⟨before, word, after, ht, h, hb, ha⟩
    have hw := Text.not_isBlank_of_switchWord h
    have hn : word ≠ [] := fun he => by
      subst he
      revert h
      decide
    rwa [ht, Text.trimChars_framed hb ha hn (fun c hc => hw c (List.mem_of_mem_head? hc))
      fun c hc => hw c (List.mem_of_mem_getLast? hc)]

-- The two files say the same under the key.
def Settings.SameAt (s s' : Settings) : SettingKey → Prop
  | .apiUrl => s.apiUrl = s'.apiUrl
  | .apiToken => s.apiToken = s'.apiToken
  | .protectedSystemToken => s.protectedSystemToken = s'.protectedSystemToken
  | .tenant => s.tenant = s'.tenant
  | .assetAttribute => s.assetAttribute = s'.assetAttribute
  | .timeoutSeconds => s.timeoutSeconds = s'.timeoutSeconds
  | .connectTimeoutSeconds => s.connectTimeoutSeconds = s'.connectTimeoutSeconds
  | .retryCount => s.retryCount = s'.retryCount
  | .retryDelayMs => s.retryDelayMs = s'.retryDelayMs
  | .validateSsl => s.validateSsl = s'.validateSsl
  | .caBundlePath => s.caBundlePath = s'.caBundlePath
  | .userAgent => s.userAgent = s'.userAgent
  | .enableDebugLogging => s.enableDebugLogging = s'.enableDebugLogging
  | .enableAccessLogging => s.enableAccessLogging = s'.enableAccessLogging

namespace Config

inductive Field
  | apiUrl
  | apiToken
  | tenant
  | assetAttribute
  | timeout
  | connectTimeout
  | retryCount
  | retryDelay
  | validateSsl
  | caBundlePath
  | userAgent
  | debugLogging
  | accessLogging
deriving DecidableEq, Repr

namespace Field

def Value : Field → Type
  | apiUrl | apiToken | assetAttribute | userAgent => String
  | tenant | caBundlePath => Option String
  | timeout | connectTimeout | retryDelay => Nat
  | retryCount => UInt32
  | validateSsl | debugLogging | accessLogging => Bool

def read (c : Config) : (f : Field) → f.Value
  | apiUrl => c.apiUrl
  | apiToken => c.apiToken
  | tenant => c.tenant
  | assetAttribute => c.assetAttribute
  | timeout => c.timeout
  | connectTimeout => c.connectTimeout
  | retryCount => c.retryCount
  | retryDelay => c.retryDelay
  | validateSsl => c.validateSsl
  | caBundlePath => c.caBundlePath
  | userAgent => c.userAgent
  | debugLogging => c.enableDebugLogging
  | accessLogging => c.enableAccessLogging

def envName? : Field → Option String
  | apiUrl => some "SGNL_API_URL"
  | apiToken => some "SGNL_API_TOKEN"
  | tenant => some "SGNL_TENANT"
  | assetAttribute => none
  | timeout => some "SGNL_TIMEOUT"
  | connectTimeout => some "SGNL_CONNECT_TIMEOUT"
  | retryCount => some "SGNL_RETRY_COUNT"
  | retryDelay => some "SGNL_RETRY_DELAY"
  | validateSsl => some "SGNL_VALIDATE_SSL"
  | caBundlePath => some "SGNL_CA_BUNDLE"
  | userAgent => some "SGNL_USER_AGENT"
  | debugLogging => some "SGNL_DEBUG"
  | accessLogging => some "SGNL_ACCESS_LOGGING"

def keys : Field → List SettingKey
  | apiUrl => [.apiUrl]
  | apiToken => [.apiToken, .protectedSystemToken]
  | tenant => [.tenant]
  | assetAttribute => [.assetAttribute]
  | timeout => [.timeoutSeconds]
  | connectTimeout => [.connectTimeoutSeconds]
  | retryCount => [.retryCount]
  | retryDelay => [.retryDelayMs]
  | validateSsl => [.validateSsl]
  | caBundlePath => [.caBundlePath]
  | userAgent => [.userAgent]
  | debugLogging => [.enableDebugLogging]
  | accessLogging => [.enableAccessLogging]

def number? (limit : Nat) (text : String) : Option Nat :=
  Text.readNatural? limit (Text.trimChars text.toList)

-- The text is a numeral for a number below the limit.
def Numbers (limit : Nat) (text : String) (n : Nat) : Prop :=
  n < limit ∧ ∃ w : Text.Numeral, w.text = text ∧ w.value = n

-- What the text of the variable stands for; only where a number is wanted may it stand for nothing.
def Gives : (f : Field) → (text : String) → f.Value → Prop
  | apiUrl, text, v | apiToken, text, v | assetAttribute, text, v | userAgent, text, v => v = text
  | tenant, text, v | caBundlePath, text, v => v = some text
  | timeout, text, v | connectTimeout, text, v => ∃ n, Numbers (Nat.pow 2 64) text n ∧ v = n * 1000
  | retryDelay, text, v => Numbers (Nat.pow 2 64) text v
  | retryCount, text, v => ∃ n, Numbers (Nat.pow 2 32) text n ∧ v = UInt32.ofNat n
  | validateSsl, text, v | debugLogging, text, v | accessLogging, text, v => v = true ↔ Text.SwitchesOn text

def decode : (f : Field) → (text : String) → Option f.Value
  | apiUrl, text | apiToken, text | assetAttribute, text | userAgent, text => some text
  | tenant, text | caBundlePath, text => some (some text)
  | timeout, text | connectTimeout, text => (number? (Nat.pow 2 64) text).map (· * 1000)
  | retryDelay, text => number? (Nat.pow 2 64) text
  | retryCount, text => (number? (Nat.pow 2 32) text).map UInt32.ofNat
  | validateSsl, text | debugLogging, text | accessLogging, text => some (parseFlag text)

-- The word of the file. Of the two tokens the first counts, and an empty tenant is none.
def inFile (s : Settings) : (f : Field) → Option f.Value
  | apiUrl => s.apiUrl
  | apiToken => s.apiToken <|> s.protectedSystemToken
  | tenant => s.tenant.bind fun tenant => if tenant = "" then none else some (some tenant)
  | assetAttribute => s.assetAttribute
  | timeout => s.timeoutSeconds.map (· * 1000)
  | connectTimeout => s.connectTimeoutSeconds.map (· * 1000)
  | retryCount => s.retryCount.map UInt32.ofNat
  | retryDelay => s.retryDelayMs
  | validateSsl => s.validateSsl
  | caBundlePath => s.caBundlePath.map some
  | userAgent => s.userAgent
  | debugLogging => s.enableDebugLogging
  | accessLogging => s.enableAccessLogging

def usual : (f : Field) → f.Value
  | apiUrl | apiToken => ""
  | tenant | caBundlePath => none
  | assetAttribute => "type"
  | timeout => (30000 : Nat)
  | connectTimeout => (10000 : Nat)
  | retryCount => (2 : UInt32)
  | retryDelay => (1000 : Nat)
  | validateSsl => true
  | userAgent => "sgnl-access-client/0.1.0"
  | debugLogging | accessLogging => false

-- The variable of the field is set to a text that stands for the value.
def Overrides (env : Environment) (f : Field) (v : f.Value) : Prop :=
  ∃ name text, f.envName? = some name ∧ env.entries.lookup name = some text ∧ text ≠ "" ∧
    f.Gives text v

def override? (env : Environment) (f : Field) : Option f.Value :=
  (f.envName?.bind env.text?).bind f.decode

end Field
end Config

theorem Environment.text?_eq_some_iff {env : Environment} {name text : String} :
    env.text? name = some text ↔ env.entries.lookup name = some text ∧ text ≠ "" := by
  simp [text?, Option.filter_eq_some_iff]

namespace Config.Field

variable {s s' : Settings} {env env' : Environment} {f : Field}

theorem number?_eq_some_iff {limit n : Nat} {text : String} :
    number? limit text = some n ↔ Numbers limit text n :=
  Text.Numeral.readNatural?_trimChars_eq_some_iff

theorem decode_eq_some_iff {text : String} {v : f.Value} : f.decode text = some v ↔ f.Gives text v := by
  have some_iff {α : Type} {x y : α} : some x = some y ↔ y = x := by rw [Option.some.injEq, eq_comm]
  cases f
  case apiUrl | apiToken | assetAttribute | userAgent | tenant | caBundlePath => exact some_iff
  case retryDelay => exact number?_eq_some_iff
  case timeout | connectTimeout | retryCount =>
    exact Option.map_eq_some_iff.trans <| exists_congr fun _ => and_congr number?_eq_some_iff eq_comm
  case validateSsl | debugLogging | accessLogging =>
    exact some_iff.trans <| Bool.eq_iff_iff.trans <| iff_congr .rfl parseFlag_iff

theorem override?_eq_some_iff {v : f.Value} : f.override? env = some v ↔ f.Overrides env v := by
  simp only [override?, Option.bind_eq_some_iff, Environment.text?_eq_some_iff, Overrides, ← decode_eq_some_iff]
  constructor
  case mp =>
    intro ⟨text, ⟨name, hn, hl, ht⟩, hd⟩
    exact ⟨name, text, hn, hl, ht, hd⟩
  case mpr =>
    intro ⟨name, text, hn, hl, ht, hd⟩
    exact ⟨text, ⟨name, hn, hl, ht⟩, hd⟩

theorem resolve_eq {α : Type} {own own' word : Option α} {other : α} (h : own = own') :
    AccessControl.resolve own word other = (own'.or word).getD other := by
  subst h
  cases own <;> rfl

theorem read_ofSettings :
    f.read (ofSettings s env) = ((f.override? env).or (f.inFile s)).getD f.usual := by
  cases f
  case apiUrl | apiToken | userAgent => exact resolve_eq (Option.bind_fun_some _).symm
  case validateSsl | debugLogging | accessLogging => exact resolve_eq Option.map_eq_bind
  case timeout | connectTimeout | retryCount => exact resolve_eq Option.map_bind
  case retryDelay => exact resolve_eq rfl
  case assetAttribute => rfl
  case tenant =>
    -- A variable that is set is not empty, so that only the tenant of the file is left to be refused
    show (env.text? "SGNL_TENANT" <|> s.tenant).filter (!·.isEmpty) =
      (((env.text? "SGNL_TENANT").bind (some <| some ·)).or
        (s.tenant.bind fun tenant => if tenant = "" then none else some (some tenant))).getD none
    cases h : env.text? "SGNL_TENANT"
    case none =>
      cases s.tenant
      case none => rfl
      case some tenant => by_cases he : tenant = "" <;> simp [he]
    case some text => simp [(Environment.text?_eq_some_iff.mp h).right]
  case caBundlePath =>
    show (env.text? "SGNL_CA_BUNDLE" <|> s.caBundlePath) =
      (((env.text? "SGNL_CA_BUNDLE").bind (some <| some ·)).or (s.caBundlePath.map some)).getD none
    cases env.text? "SGNL_CA_BUNDLE" <;> cases s.caBundlePath <;> rfl

-- A field has no source but its variable and its keys.
theorem override?_congr
    (h : ∀ name, f.envName? = some name → env'.text? name = env.text? name) :
    f.override? env' = f.override? env := by
  unfold override?
  cases hv : f.envName?
  case none => rfl
  case some name => simp [h name hv]

theorem inFile_congr (h : ∀ key ∈ f.keys, s'.SameAt s key) : f.inFile s' = f.inFile s := by
  cases f
  case apiUrl | assetAttribute | retryDelay | validateSsl | userAgent | debugLogging | accessLogging =>
    exact h _ List.mem_cons_self
  case timeout | connectTimeout | retryCount | caBundlePath =>
    exact congrArg (Option.map _) (h _ List.mem_cons_self)
  case tenant => exact congrArg (Option.bind · _) (h _ List.mem_cons_self)
  case apiToken =>
    have ht : s'.apiToken = s.apiToken := h .apiToken (by simp [keys])
    have hp : s'.protectedSystemToken = s.protectedSystemToken :=
      h .protectedSystemToken (by simp [keys])
    show (s'.apiToken <|> s'.protectedSystemToken) = (s.apiToken <|> s.protectedSystemToken)
    rw [ht, hp]

-- A configuration is the sum of its fields.
theorem eq_of_read {c c' : Config} (h : ∀ f : Field, f.read c' = f.read c) : c' = c := by
  obtain ⟨⟩ := c
  obtain ⟨⟩ := c'
  simp only [Config.mk.injEq]
  exact ⟨h .apiUrl, h .apiToken, h .tenant, h .assetAttribute, h .timeout, h .connectTimeout,
    h .retryCount, h .retryDelay, h .validateSsl, h .caBundlePath, h .userAgent, h .debugLogging,
    h .accessLogging⟩

theorem read_congr (hk : ∀ key ∈ f.keys, s'.SameAt s key)
    (hv : ∀ name, f.envName? = some name → env'.text? name = env.text? name) :
    f.read (ofSettings s' env') = f.read (ofSettings s env) := by
  rw [read_ofSettings, read_ofSettings, override?_congr hv, inFile_congr hk]

end Config.Field

-- The variable is as it was, or it was empty and is gone.
def Environment.Keeps (env' env : Environment) (name : String) : Prop :=
  env'.entries.lookup name = env.entries.lookup name ∨
    (env.entries.lookup name = some "" ∧ env'.entries.lookup name = none)

theorem Environment.Keeps.text? {env env' : Environment} {name : String} (h : env'.Keeps env name) :
    env'.text? name = env.text? name := by
  unfold Environment.text?
  cases h
  case inl h => rw [h]
  case inr h => rw [h.left, h.right]; rfl

theorem Settings.SameAt.refl (s : Settings) (key : SettingKey) : s.SameAt s key := by
  cases key <;> rfl

namespace Config

open Config.Field

theorem ofSettings_precedence (s : Settings) (env : Environment) (f : Field) :
    (∀ v, f.Overrides env v → f.read (ofSettings s env) = v) ∧
      ((∀ v, ¬f.Overrides env v) → f.read (ofSettings s env) = (f.inFile s).getD f.usual) ∧
      (∀ s' env', (∀ key ∈ f.keys, s'.SameAt s key) →
        (∀ name, f.envName? = some name → env'.Keeps env name) →
        f.read (ofSettings s' env') = f.read (ofSettings s env)) ∧
      ∀ env', (∀ f' : Field, ∀ name, f'.envName? = some name → env'.Keeps env name) →
        ofSettings s env' = ofSettings s env := by
  refine ⟨?_, ?_, ?_, ?_⟩
  · intro v h
    rw [read_ofSettings, override?_eq_some_iff.mpr h]
    rfl
  · intro h
    have hn : f.override? env = none :=
      Option.eq_none_iff_forall_ne_some.mpr fun v hv => h v <| override?_eq_some_iff.mp hv
    rw [read_ofSettings, hn, Option.none_or]
  · intro s' env' hk hv
    exact read_congr hk fun name hn => (hv name hn).text?
  · intro env' hv
    refine eq_of_read fun f' => read_congr (fun key _ => .refl s key) fun name hn => ?_
    exact (hv f' name hn).text?

-- A number and a word among blanks go before the file; an empty variable does not, and may as well be missing.
theorem ofSettings_precedence_timeout :
    let s : Settings := { timeoutSeconds := some 7, userAgent := some "agent", validateSsl := some true }
    let env : Environment :=
      .fixed [("SGNL_TIMEOUT", " +5 "), ("SGNL_USER_AGENT", ""), ("SGNL_DEBUG", "\tYes "), ("SGNL_VALIDATE_SSL", "y")]
    let env' : Environment :=
      .fixed [("LANG", "C"), ("SGNL_DEBUG", "\tYes "), ("SGNL_TIMEOUT", " +5 "), ("SGNL_VALIDATE_SSL", "y")]
    (ofSettings s env).timeout = 5000 ∧ (ofSettings s env).userAgent = "agent" ∧
      (ofSettings s env).enableDebugLogging = true ∧ (ofSettings s env).validateSsl = false ∧
      ofSettings s env' = ofSettings s env := by
  intro s env env'
  have ⟨ht, _, _, hn⟩ := ofSettings_precedence s env .timeout
  have ⟨_, hu, _, _⟩ := ofSettings_precedence s env .userAgent
  have ⟨hd, _, _, _⟩ := ofSettings_precedence s env .debugLogging
  have ⟨hs, _, _, _⟩ := ofSettings_precedence s env .validateSsl
  have overrides (f : Field) {name : String} (text : String) {v : f.Value} (hv : f.envName? = some name)
      (hl : env.entries.lookup name = some text) (hne : text ≠ "") (hg : f.decode text = some v) :
      f.Overrides env v :=
    ⟨name, text, hv, hl, hne, decode_eq_some_iff.mp hg⟩
  have five : (Field.number? (Nat.pow 2 64) " +5 ").map (· * 1000) = some 5000 := by decide +kernel
  have on : some (parseFlag "\tYes ") = some true := by decide +kernel
  have off : some (parseFlag "y") = some false := by decide +kernel
  have hf : ∀ v, ¬Field.userAgent.Overrides env v := by
    rintro v ⟨name, text, hv, hl, hne, _⟩
    cases hv
    have hl' : env.entries.lookup "SGNL_USER_AGENT" = some "" := by decide +kernel
    exact hne <| Option.some.inj <| hl.symm.trans hl'
  have hk (f : Field) (name : String) (hv : f.envName? = some name) : env'.Keeps env name := by
    cases f
    case userAgent =>
      cases hv
      exact .inr ⟨by decide +kernel, by decide +kernel⟩
    case assetAttribute => contradiction
    all_goals
      cases hv
      exact .inl (by decide +kernel)
  exact ⟨ht _ (overrides .timeout " +5 " rfl (by decide +kernel) (by decide) five), hu hf,
    hd _ (overrides .debugLogging "\tYes " rfl (by decide +kernel) (by decide) on),
    hs _ (overrides .validateSsl "y" rfl (by decide +kernel) (by decide) off), hn env' hk⟩

end Config
end AccessControl
