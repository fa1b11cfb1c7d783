import AccessControl.Text.Blank
import AccessControl.Text.Decimal
import AccessControl.Text.Quoted

namespace AccessControl

inductive Variable
  | configPath
  | apiUrl
  | apiToken
  | tenant
  | debug
  | accessLogging
  | timeout
  | connectTimeout
  | retryCount
  | retryDelay
  | validateSsl
  | userAgent
  | caBundle
deriving DecidableEq, Repr

def Variable.name : Variable → String
  | .configPath => "SGNL_CONFIG_PATH"
  | .apiUrl => "SGNL_API_URL"
  | .apiToken => "SGNL_API_TOKEN"
  | .tenant => "SGNL_TENANT"
  | .debug => "SGNL_DEBUG"
  | .accessLogging => "SGNL_ACCESS_LOGGING"
  | .timeout => "SGNL_TIMEOUT"
  | .connectTimeout => "SGNL_CONNECT_TIMEOUT"
  | .retryCount => "SGNL_RETRY_COUNT"
  | .retryDelay => "SGNL_RETRY_DELAY"
  | .validateSsl => "SGNL_VALIDATE_SSL"
  | .userAgent => "SGNL_USER_AGENT"
  | .caBundle => "SGNL_CA_BUNDLE"

-- Where variables come from: the process that runs, or a fixed list. Both are lists of names with
-- values here; they differ in what they show of themselves.
inductive Environment
  | process (entries : List (String × String))
  | fixed (entries : List (String × String))
deriving Inhabited

-- Whether a text switches a flag on; any other text switches it off.
def parseFlag (value : String) : Bool :=
  let word := String.ofList (Text.lowerAscii (Text.trimChars value.toList))
  word = "1" || word = "true" || word = "yes" || word = "on"

def resolve (override setting : Option α) (default : α) : α :=
  (override <|> setting).getD default

namespace Environment

def entries : Environment → List (String × String)
  | .process vs => vs
  | .fixed vs => vs

-- A variable that is empty counts as unset.
def text? (env : Environment) (name : String) : Option String :=
  (env.entries.lookup name).filter (!·.isEmpty)

def flag? (env : Environment) (name : String) : Option Bool :=
  (env.text? name).map parseFlag

-- A number below `limit`; anything else in the variable is ignored.
def natural? (env : Environment) (limit : Nat) (name : String) : Option Nat :=
  (env.text? name).bind fun s => Text.readNatural? limit (Text.trimChars s.toList)

-- What an environment shows of itself: never the values.
def description : Environment → String
  | .process _ => "EnvSource::Process"
  | .fixed vs =>
    let names := (vs.map (·.1)).mergeSort (fun a b => !(b < a))
    "EnvSource::Fixed([" ++ ", ".intercalate (names.map Text.quote) ++ "])"

end Environment
end AccessControl
