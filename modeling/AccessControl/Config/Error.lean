import AccessControl.File.Error
import AccessControl.Json.Error

namespace AccessControl

inductive ConfigFault
  | emptyPath
  | pathTooLong
  | pathComponentTooLong
  | fileTooLarge
  | notUtf8
  | missingApiUrl
  | missingApiToken
deriving DecidableEq, Repr

inductive ConfigError
  | io (error : FileError)
  | parse (error : Json.ReadError)
  | invalid (fault : ConfigFault)
deriving DecidableEq, Repr

def ConfigFault.message : ConfigFault → String
  | .emptyPath => "config path must not be empty"
  | .pathTooLong => "config path exceeds max length"
  | .pathComponentTooLong => "config path component too long"
  | .fileTooLarge => "config file exceeds size limit"
  | .notUtf8 => "config file must be utf-8"
  | .missingApiUrl => "api_url is required"
  | .missingApiToken => "api_token is required"

def ConfigError.message : ConfigError → String
  | .io e => "config io error: " ++ e.message
  | .parse e => "config parse error: " ++ e.message
  | .invalid f => "invalid config: " ++ f.message

end AccessControl
