import AccessControl.Config.Error
import AccessControl.File.Volume
import AccessControl.Json.Typed

namespace AccessControl

inductive SettingKey
  | apiUrl
  | apiToken
  | protectedSystemToken
  | tenant
  | assetAttribute
  | timeoutSeconds
  | connectTimeoutSeconds
  | retryCount
  | retryDelayMs
  | validateSsl
  | caBundlePath
  | userAgent
  | enableDebugLogging
  | enableAccessLogging
deriving DecidableEq, Repr

namespace SettingKey

-- Every key, in the order in which a list gives the settings.
def all : List SettingKey :=
  [apiUrl, apiToken, protectedSystemToken, tenant, assetAttribute, timeoutSeconds,
    connectTimeoutSeconds, retryCount, retryDelayMs, validateSsl, caBundlePath, userAgent,
    enableDebugLogging, enableAccessLogging]

def name : SettingKey → String
  | apiUrl => "api_url"
  | apiToken => "api_token"
  | protectedSystemToken => "protected_system_token"
  | tenant => "tenant"
  | assetAttribute => "asset_attribute"
  | timeoutSeconds => "timeout_seconds"
  | connectTimeoutSeconds => "connect_timeout_seconds"
  | retryCount => "retry_count"
  | retryDelayMs => "retry_delay_ms"
  | validateSsl => "validate_ssl"
  | caBundlePath => "ca_bundle_path"
  | userAgent => "user_agent"
  | enableDebugLogging => "enable_debug_logging"
  | enableAccessLogging => "enable_access_logging"

def ofName? (name : String) : Option SettingKey :=
  all.find? (·.name == name)

end SettingKey

-- The settings of a file. The token has a second key, from before the first was introduced.
structure Settings where
  apiUrl : Option String := none
  apiToken : Option String := none
  protectedSystemToken : Option String := none
  tenant : Option String := none
  assetAttribute : Option String := none
  timeoutSeconds : Option Nat := none
  connectTimeoutSeconds : Option Nat := none
  retryCount : Option Nat := none
  retryDelayMs : Option Nat := none
  validateSsl : Option Bool := none
  caBundlePath : Option String := none
  userAgent : Option String := none
  enableDebugLogging : Option Bool := none
  enableAccessLogging : Option Bool := none
deriving DecidableEq, Repr, Inhabited

namespace Settings

open Json (Read ReadError)

def token (s : Settings) : Option String :=
  s.apiToken <|> s.protectedSystemToken

-- The limits of the numbers: counts of time in 64 bits, the count of retries in 32.
def limit64 : Nat := UInt64.size

def limit32 : Nat := UInt32.size

private def text (bytes : Bytes) : Read (Option String) :=
  Json.readOptional (Json.readText .text) bytes

private def path (bytes : Bytes) : Read (Option String) :=
  Json.readOptional (Json.readText .path) bytes

private def natural64 (bytes : Bytes) : Read (Option Nat) :=
  Json.readOptional (Json.readNatural limit64 .natural64) bytes

private def natural32 (bytes : Bytes) : Read (Option Nat) :=
  Json.readOptional (Json.readNatural limit32 .natural32) bytes

private def flag (bytes : Bytes) : Read (Option Bool) :=
  Json.readOptional Json.readFlag bytes

def readSetting (s : Settings) (key : SettingKey) (bytes : Bytes) : Read Settings :=
  match key with
  | .apiUrl => (text bytes).map fun (v, r) => ({ s with apiUrl := v }, r)
  | .apiToken => (text bytes).map fun (v, r) => ({ s with apiToken := v }, r)
  | .protectedSystemToken =>
    (text bytes).map fun (v, r) => ({ s with protectedSystemToken := v }, r)
  | .tenant => (text bytes).map fun (v, r) => ({ s with tenant := v }, r)
  | .assetAttribute => (text bytes).map fun (v, r) => ({ s with assetAttribute := v }, r)
  | .timeoutSeconds => (natural64 bytes).map fun (v, r) => ({ s with timeoutSeconds := v }, r)
  | .connectTimeoutSeconds =>
    (natural64 bytes).map fun (v, r) => ({ s with connectTimeoutSeconds := v }, r)
  | .retryCount => (natural32 bytes).map fun (v, r) => ({ s with retryCount := v }, r)
  | .retryDelayMs => (natural64 bytes).map fun (v, r) => ({ s with retryDelayMs := v }, r)
  | .validateSsl => (flag bytes).map fun (v, r) => ({ s with validateSsl := v }, r)
  | .caBundlePath => (path bytes).map fun (v, r) => ({ s with caBundlePath := v }, r)
  | .userAgent => (text bytes).map fun (v, r) => ({ s with userAgent := v }, r)
  | .enableDebugLogging => (flag bytes).map fun (v, r) => ({ s with enableDebugLogging := v }, r)
  | .enableAccessLogging =>
    (flag bytes).map fun (v, r) => ({ s with enableAccessLogging := v }, r)

-- One member from its colon on: a setting is read, anything else is passed over.
def readMember (length : Nat) (s : Settings) (key : Option SettingKey) (bytes : Bytes) :
    Read Settings :=
  match Json.readColon bytes with
  | .error e => .error e
  | .ok rest =>
    match key with
    | some k => s.readSetting k rest
    | none => (Json.skipValue length rest).map (s, ·)

-- The members of an object up to its end. A setting that comes twice is refused at its second key.
def readMembers (length : Nat) (seen : List SettingKey) (first : Bool) (s : Settings) :
    (fuel : Nat) → Bytes → Read Settings
  | 0, _ => .error .eofObject
  | fuel + 1, bytes =>
    match Json.nextKey first bytes with
    | .error e => .error e
    | .ok (.stop rest) => .ok (s, rest)
    | .ok (.entry bytes) =>
      match Json.readString bytes with
      | .error e => .error e
      | .ok (name, rest) =>
        let key := SettingKey.ofName? name
        if key.any (seen.contains ·) then .error (.duplicateKey name)
        else
          match s.readMember length key rest with
          | .error e => .error e
          | .ok (s, rest) => readMembers length (key.toList ++ seen) false s fuel rest

-- The items of a list, one for each of the keys, until either runs out.
def readItems (first : Bool) (s : Settings) : List SettingKey → Bytes → Read Settings
  | [], bytes => (Json.readListEnd bytes).map (s, ·)
  | key :: keys, bytes =>
    match Json.nextItem first bytes with
    | .error e => .error e
    | .ok (.stop rest) => .ok (s, rest)
    | .ok (.entry bytes) =>
      match s.readSetting key bytes with
      | .error e => .error e
      | .ok (s, rest) => readItems false s keys rest

def ofText (text : Bytes) : Except ReadError Settings := do
  let (s, rest) ← show Read Settings from
    match Json.skipBlanks text with
    | [] => .error .eofValue
    | b :: rest =>
      if b = 0x7B then readMembers text.length [] true {} (text.length + 1) rest
      else if b = 0x5B then readItems true {} SettingKey.all rest
      else .error (Json.mismatch .settings text)
  Json.readEnd rest
  return s

def maxFileSize : Nat := 1024 * 1024

def maxPathLength : Nat := 4096

def maxPathComponent : Nat := 255

-- The limits on a path, checked before any file is touched.
def checkPath (path : String) : Except ConfigFault Unit :=
  if path.isEmpty then .error .emptyPath
  else if maxPathLength < Utf8.length path then .error .pathTooLong
  else if (path.splitOn "/").any (maxPathComponent < Utf8.length ·) then
    .error .pathComponentTooLong
  else .ok ()

-- The settings in a file, the path of which is UTF-8. The first of its checks that fails decides the error.
def load (file : Volume.Reader) (path : String) : Except ConfigError Settings :=
  match checkPath path with
  | .error f => .error (.invalid f)
  | .ok () =>
    match file path with
    | .error e => .error (.io e)
    | .ok content =>
      if maxFileSize < content.length then .error (.invalid .fileTooLarge)
      else if (Utf8.decode? content).isNone then .error (.invalid .notUtf8)
      else
        match ofText content with
        | .ok s => .ok s
        | .error e => .error (.parse e)

end Settings
end AccessControl
