import AccessControl.CommandLine.Invocation
import AccessControl.Host.Adapter

namespace AccessControl.CommandLine

-- Zero accepts, one rejects, two is any error: whatever keeps a decision from being reached ends with two.
structure Completion where
  status : UInt8
  output : List String := []
  complaint : Option String := none
deriving DecidableEq, Repr, Inhabited

def Completion.errorStatus : UInt8 := 2

def Completion.failed (complaint : String) : Completion where
  status := errorStatus
  complaint := some complaint

structure Surroundings (σ : Type) where
  environment : Environment
  file : Volume.Reader
  transport : Transport σ
  draw : Run σ Call
  -- When the configuration is loaded, in milliseconds since the epoch.
  time : Nat

variable {σ : Type}

namespace Surroundings

variable (s : Surroundings σ)

def resolver (configPath : Option String) : Resolver :=
  let r := Resolver.ofEnvironment s.environment
  match configPath with
  | some path => r.withPath path
  | none => r

-- Loads the configuration; only a failure leaves records.
def load (configPath : Option String) : Run σ (Bool × Resolver) := do
  let (loaded, events, r) := (s.resolver configPath).load s.file s.time
  events.forM fun e => Run.emit (.logged e)
  return (loaded, r)

def withClient (configPath : Option String) (use : Client σ → Run σ Completion) :
    Run σ Completion := do
  let (loaded, r) ← s.load configPath
  if loaded then use { config := r.config, transport := s.transport }
  else return .failed ("failed to load configuration from " ++ r.path)

def withAdapter (configPath : Option String) (use : Host.Adapter σ → Run σ Completion) :
    Run σ Completion := do
  let (adapter, events, _) :=
    Host.Adapter.load s.transport (s.resolver configPath) s.file s.time
  events.forM fun e => Run.emit (.logged e)
  match adapter with
  | .ok adapter => use adapter
  | .error e => return .failed e.message

end Surroundings

-- One decision stands alone, several are an array.
def decisionsJson : List Decision → Json
  | [d] => d.toJson
  | ds => .array (ds.map (·.toJson))

-- The decisions on assets: a single one is asked for by itself.
def evaluateAssets (client : Client σ) (draw : Run σ Call) (principal : String)
    (assets : List String) (action : String) : Run σ (List Decision) :=
  match assets with
  | [asset] => (client.evaluate draw principal asset action).map fun d => [d]
  | assets => client.evaluateBatch draw principal (assets.map fun asset => ⟨asset, action⟩)

namespace Invocation

def run (i : Invocation) (s : Surroundings σ) : Run σ Completion :=
  match i.command with
  | .check user command =>
    s.withAdapter i.configPath fun adapter => do
      let check ← adapter.checkPolicy s.draw command user
      return { status := check.verdict.exitStatus, output := [check.toJson.pretty] }
  | .evaluate principal assets action =>
    s.withClient i.configPath fun client => do
      let decisions ← evaluateAssets client s.draw principal assets action
      return {
        status := (combinedResult decisions).verdict.exitStatus
        output := [(decisionsJson decisions).pretty] }
  | .search principal action pageToken pageSize =>
    s.withClient i.configPath fun client => do
      let result ← client.search s.draw principal action pageToken pageSize
      return { status := result.result.exitStatus, output := [result.toJson.pretty] }
  | .list user command =>
    s.withAdapter i.configPath fun adapter => do
      return { status := 0, output := ← adapter.list s.draw command user }
  | .validate => do
    let (loaded, r) ← s.load i.configPath
    let client : Client σ := { config := r.config, transport := s.transport }
    let result : Result := if loaded then client.validate else .configError
    return { status := result.exitStatus, output := [result.name ++ ": " ++ result.description] }
  | .version verbose =>
    if verbose then
      s.withAdapter i.configPath fun adapter =>
        return { status := 0, output := adapter.versionLines true }
    else return { status := 0, output := [Host.versionBanner] }

end Invocation

structure Report where
  status : UInt8
  output : String
  errors : String
  files : Volume

def Report.ofCompletion (c : Completion) (errors : String) (files : Volume) : Report :=
  let lines (ls : List String) : String := String.join (ls.map (· ++ "\n"))
  { status := c.status, output := lines c.output, errors := errors ++ lines c.complaint.toList, files }

def logText (es : List Effect) : String :=
  Log.lines (es.filterMap fun
    | .logged e => some e
    | _ => none)

def logComplaint (path : String) (e : FileError) : String :=
  "failed to open log file " ++ path ++ ": " ++ e.message

-- Runs on a tree of files. The log is opened before anything else is done; without it, nothing is.
def Invocation.report (i : Invocation) (environment : Environment) (files : Volume)
    (transport : Volume.Reader → Transport σ) (draw : Run σ Call) (time : Nat) :
    Run σ Report := fun state =>
  let runOn (files : Volume) : Outcome σ Completion :=
    i.run { environment, draw, time, file := files.read, transport := transport files.read } state
  match i.logPath with
  | none =>
    let o := runOn files
    { o with value := .ofCompletion o.value (logText o.effects) files }
  | some path =>
    match files.openAppend path with
    | .error e => ⟨.ofCompletion (.failed (logComplaint path e)) "" files, [], state⟩
    | .ok (place, files) =>
      let o := runOn files
      { o with
        value := .ofCompletion o.value ""
          (files.append place (Utf8.encodeString (logText o.effects))) }

end AccessControl.CommandLine
