namespace AccessControl
namespace Host

structure Context where
  entries : List (String × String)
deriving DecidableEq, Repr, Inhabited

namespace Context

-- The texts before and after the first `=`.
def splitEntry? (entry : String) : Option (String × String) :=
  let cs := entry.toList
  match cs.dropWhile (· != '=') with
  | _ :: value => some (String.ofList (cs.takeWhile (· != '=')), String.ofList value)
  | [] => none

-- Entries without `=` are passed over.
def ofEntries (entries : List String) : Context :=
  ⟨entries.filterMap splitEntry?⟩

def forUser (user : String) : Context :=
  ofEntries ["user=" ++ user]

-- Of several entries for a key the first counts.
def get? (c : Context) (key : String) : Option String :=
  c.entries.lookup key

def unknown : String := "unknown"

-- The user, else the user name, else nobody; an empty value names nobody.
def principal (c : Context) : String :=
  let named (key : String) := (c.get? key).filter (!·.isEmpty)
  (named "user" <|> named "username").getD unknown

end Context
end Host
end AccessControl
