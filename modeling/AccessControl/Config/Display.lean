import AccessControl.Config.Basic

namespace AccessControl

-- A time in the largest unit that fits, its fraction without trailing zeros.
def durationText (ms : Nat) : String :=
  if ms = 0 then "0ns"
  else if ms < 1000 then toString ms ++ "ms"
  else
    let fraction := ms % 1000
    let digits := [fraction / 100 % 10, fraction / 10 % 10, fraction % 10]
    let kept := (digits.reverse.dropWhile (· == 0)).reverse
    let shown := String.ofList (kept.map Nat.digitChar)
    toString (ms / 1000) ++ (if kept.isEmpty then "" else "." ++ shown) ++ "s"

private def optionText (style : Text.QuoteStyle) : Option String → String
  | some s => "Some(" ++ Text.quoteWith style s ++ ")"
  | none => "None"

private def boolText (b : Bool) : String :=
  if b then "true" else "false"

namespace Config

def tokenMark (c : Config) : String :=
  if c.apiToken.isEmpty then "<empty>" else "<redacted>"

-- The token never appears: only whether there is one.
def description (c : Config) : String :=
  let fields : List (String × String) :=
    [("api_url", Text.quote c.apiUrl),
      ("api_token", Text.quote c.tokenMark),
      ("tenant", optionText .text c.tenant),
      ("asset_attribute", Text.quote c.assetAttribute),
      ("timeout", durationText c.timeout),
      ("connect_timeout", durationText c.connectTimeout),
      ("retry_count", toString c.retryCount.toNat),
      ("retry_delay", durationText c.retryDelay),
      ("validate_ssl", boolText c.validateSsl),
      ("ca_bundle_path", optionText .path c.caBundlePath),
      ("user_agent", Text.quote c.userAgent),
      ("enable_debug_logging", boolText c.enableDebugLogging),
      ("enable_access_logging", boolText c.enableAccessLogging)]
  "AccessConfig \x7b " ++ ", ".intercalate (fields.map fun (k, v) => k ++ ": " ++ v) ++ " \x7d"

end Config
end AccessControl
