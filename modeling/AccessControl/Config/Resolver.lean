import AccessControl.Log.Event

namespace AccessControl

-- Holds the configuration of its last load if that succeeded, and the default one otherwise.
structure Resolver where
  path : String
  environment : Environment
  config : Config := .default
  loaded : Bool := false
deriving Inhabited

namespace Resolver

def defaultPath : String := "/etc/sgnl/config.json"

def ofEnvironment (env : Environment) : Resolver :=
  { path := (env.text? Variable.configPath.name).getD defaultPath
    environment := env }

def withPath (r : Resolver) (path : String) : Resolver :=
  { r with path }

-- Forgets what an earlier load gave.
def reset (r : Resolver) : Resolver :=
  { r with config := .default, loaded := false }

def readConfig (r : Resolver) (file : Volume.Reader) : Except ConfigError Config := do
  let settings ← Settings.load file r.path
  let config := Config.ofSettings settings r.environment
  config.validate
  return config

def tryLoad (r : Resolver) (file : Volume.Reader) : Except ConfigError Config × Resolver :=
  match r.readConfig file with
  | .ok config => (.ok config, { r with config, loaded := true })
  | .error e => (.error e, r.reset)

def failureEvent (r : Resolver) (time : Nat) (e : ConfigError) : Log.Event where
  name := "config_load_failed"
  level := .error
  time := time
  requestId := none
  message := r.path ++ ": " ++ e.message

-- Loads, and tells whether that succeeded; the events are for the log.
def load (r : Resolver) (file : Volume.Reader) (time : Nat) :
    Bool × List Log.Event × Resolver :=
  match r.tryLoad file with
  | (.ok _, r) => (true, [], r)
  | (.error e, r) => (false, [r.failureEvent time e], r)

def isValid (r : Resolver) : Bool :=
  r.loaded && r.config.isValid

end Resolver
end AccessControl
