import AccessControl.CommandLine.Invocation

namespace AccessControl.CommandLine

def programName : String := "sgnl-access"

def Subcommand.usage : Subcommand → String
  | .check => "check [--user <NAME>] [--user-info <KEY=VALUE>]... <COMMAND>..."
  | .evaluate => "evaluate --principal <ID> --asset <ID>... [--action <ACTION>]"
  | .search =>
    "search --principal <ID> [--action <ACTION>] [--page-token <TOKEN>] [--page-size <N>]"
  | .list => "list [--user <NAME>] [--user-info <KEY=VALUE>]... [COMMAND]"
  | .validate => "validate"
  | .version => "version [--verbose]"

def usageLines : List String :=
  ("Usage: " ++ programName ++ " [--config <PATH>] [--log-file <PATH>] <SUBCOMMAND>") :: "" ::
    "Subcommands:" :: Subcommand.all.map ("  " ++ ·.usage)

end AccessControl.CommandLine
