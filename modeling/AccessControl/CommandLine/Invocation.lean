import AccessControl.CommandLine.Arguments
import AccessControl.Host.Context

namespace AccessControl.CommandLine

inductive Command
  | check (user : Host.Context) (command : List String)
  | evaluate (principal : String) (assets : List String) (action : String)
  | search (principal action : String) (pageToken : Option String) (pageSize : UInt32)
  | list (user : Host.Context) (command : Option String)
  | validate
  | version (verbose : Bool)
deriving Repr

-- One subcommand with its arguments, and the two settings that all subcommands share. They may stand in
-- front of the subcommand or after its name.
structure Invocation where
  configPath : Option String
  -- Where log lines go; without it they go to the standard error.
  logPath : Option String
  command : Command
deriving Repr

inductive Subcommand
  | check
  | evaluate
  | search
  | list
  | validate
  | version
deriving DecidableEq, Repr

namespace Subcommand

def all : List Subcommand := [check, evaluate, search, list, validate, version]

def text : Subcommand → String
  | check => "check"
  | evaluate => "evaluate"
  | search => "search"
  | list => "list"
  | validate => "validate"
  | version => "version"

def ofText? (name : String) : Option Subcommand :=
  all.find? (·.text = name)

def level : Subcommand → Level
  | check => ⟨.user :: .userInfo :: commonOptions, .command⟩
  | evaluate => ⟨.principal :: .asset :: .action :: commonOptions, .none⟩
  | search => ⟨.principal :: .action :: .pageToken :: .pageSize :: commonOptions, .none⟩
  | list => ⟨.user :: .userInfo :: commonOptions, .atMostOne⟩
  | validate => ⟨commonOptions, .none⟩
  | version => ⟨.verbose :: commonOptions, .none⟩

-- The user comes first, so that the entries cannot name another one.
def contextOf (g : Given) : Host.Context :=
  let user := (g.value? .user).toList.map ("user=" ++ ·)
  .ofEntries (user ++ g.values .userInfo)

def command? (g : Given) : Subcommand → Option Command
  | check => some (.check (contextOf g) g.operands)
  | evaluate => do
    let principal ← g.value? .principal
    let assets := g.values .asset
    if assets.isEmpty then none
    return .evaluate principal assets ((g.value? .action).getD "")
  | search => do
    let principal ← g.value? .principal
    let pageSize := ((g.value? .pageSize).bind OptionName.readPageSize?).getD 0
    return .search principal ((g.value? .action).getD "") (g.value? .pageToken) pageSize
  | list => some (.list (contextOf g) g.operands.head?)
  | validate => some .validate
  | version => some (.version (g.has .verbose))

end Subcommand

namespace Invocation

def front : Level := ⟨commonOptions, .subcommand⟩

-- Reads all words. Of a setting given at both levels, the one after the subcommand's name counts.
def read (words : List String) : Except Stop Invocation := do
  let before ← front.read words
  let name :: rest := before.operands | .error .misuse
  let some subcommand := Subcommand.ofText? name | .error .misuse
  let given ← subcommand.level.read rest
  let some command := subcommand.command? given | .error .misuse
  return {
    configPath := given.value? .config <|> before.value? .config
    logPath := given.value? .logFile <|> before.value? .logFile
    command }

end Invocation
end AccessControl.CommandLine
