import AccessControl.Config.Settings
import AccessControl.Environment

namespace AccessControl

def version : String := "0.1.0"

-- Times are counted in milliseconds.
structure Config where
  apiUrl : String := ""
  apiToken : String := ""
  tenant : Option String := none
  assetAttribute : String := "type"
  timeout : Nat := 30000
  connectTimeout : Nat := 10000
  retryCount : UInt32 := 2
  retryDelay : Nat := 1000
  validateSsl : Bool := true
  caBundlePath : Option String := none
  userAgent : String := "sgnl-access-client/" ++ version
  enableDebugLogging : Bool := false
  enableAccessLogging : Bool := false
deriving DecidableEq, Repr, Inhabited

namespace Config

def default : Config := {}

def seconds (n : Nat) : Nat := n * 1000

private def text? (env : Environment) (v : Variable) : Option String :=
  env.text? v.name

private def flag? (env : Environment) (v : Variable) : Option Bool :=
  env.flag? v.name

private def natural64? (env : Environment) (v : Variable) : Option Nat :=
  env.natural? Settings.limit64 v.name

private def natural32? (env : Environment) (v : Variable) : Option Nat :=
  env.natural? Settings.limit32 v.name

-- Settles every field. An empty tenant is no tenant, wherever it comes from.
def ofSettings (s : Settings) (env : Environment) : Config where
  apiUrl := AccessControl.resolve (text? env .apiUrl) s.apiUrl default.apiUrl
  apiToken := AccessControl.resolve (text? env .apiToken) s.token default.apiToken
  tenant := (text? env .tenant <|> s.tenant).filter (!·.isEmpty)
  assetAttribute := s.assetAttribute.getD default.assetAttribute
  timeout :=
    AccessControl.resolve ((natural64? env .timeout).map seconds) (s.timeoutSeconds.map seconds)
      default.timeout
  connectTimeout :=
    AccessControl.resolve ((natural64? env .connectTimeout).map seconds)
      (s.connectTimeoutSeconds.map seconds) default.connectTimeout
  retryCount :=
    AccessControl.resolve ((natural32? env .retryCount).map UInt32.ofNat)
      (s.retryCount.map UInt32.ofNat) default.retryCount
  retryDelay :=
    AccessControl.resolve (natural64? env .retryDelay) s.retryDelayMs default.retryDelay
  validateSsl :=
    AccessControl.resolve (flag? env .validateSsl) s.validateSsl default.validateSsl
  caBundlePath := text? env .caBundle <|> s.caBundlePath
  userAgent := AccessControl.resolve (text? env .userAgent) s.userAgent default.userAgent
  enableDebugLogging :=
    AccessControl.resolve (flag? env .debug) s.enableDebugLogging default.enableDebugLogging
  enableAccessLogging :=
    AccessControl.resolve (flag? env .accessLogging) s.enableAccessLogging
      default.enableAccessLogging

-- It has to name a service and a token.
def isValid (c : Config) : Bool :=
  !c.apiUrl.isEmpty && !c.apiToken.isEmpty

def validate (c : Config) : Except ConfigError Unit :=
  if c.apiUrl.isEmpty then .error (.invalid .missingApiUrl)
  else if c.apiToken.isEmpty then .error (.invalid .missingApiToken)
  else .ok ()

theorem validate_eq_ok_iff {c : Config} : c.validate = .ok () ↔ c.isValid = true := by
  unfold validate isValid
  by_cases hu : c.apiUrl.isEmpty <;> by_cases ht : c.apiToken.isEmpty <;> simp [hu, ht]

end Config
end AccessControl
