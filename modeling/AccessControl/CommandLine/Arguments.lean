import AccessControl.Text.Decimal

namespace AccessControl.CommandLine

inductive OptionName
  | config
  | logFile
  | user
  | userInfo
  | principal
  | asset
  | action
  | pageToken
  | pageSize
  | verbose
  | help
deriving DecidableEq, Repr

namespace OptionName

def text : OptionName → String
  | .config => "config"
  | .logFile => "log-file"
  | .user => "user"
  | .userInfo => "user-info"
  | .principal => "principal"
  | .asset => "asset"
  | .action => "action"
  | .pageToken => "page-token"
  | .pageSize => "page-size"
  | .verbose => "verbose"
  | .help => "help"

def takesValue : OptionName → Bool
  | .verbose | .help => false
  | _ => true

def isRepeatable : OptionName → Bool
  | .userInfo | .asset => true
  | _ => false

-- A page size: an integer, in any spelling, that 32 bits hold without a sign.
def readPageSize? (value : String) : Option UInt32 :=
  ((Text.readInteger? value.toList).filter fun i => 0 ≤ i && i < (UInt32.size : Int)).map
    fun i => UInt32.ofNat i.toNat

-- Whether a value is one that the option can have. Paths are not empty.
def accepts : OptionName → String → Bool
  | .config, value | .logFile, value => !value.isEmpty
  | .pageSize, value => (readPageSize? value).isSome
  | _, _ => true

end OptionName

def commonOptions : List OptionName := [.config, .logFile, .help]

def helpLetter : Char := 'h'

inductive Operands
  | none
  | atMostOne
  -- A command to be run: from its first word on, all words belong to it as they are, and a word that
  -- looks like an option but is none can be the first.
  | command
  -- The name of a subcommand, at which this level ends.
  | subcommand
deriving DecidableEq, Repr

-- A level of a command line, the front or what follows a subcommand, knows some options and takes some
-- operands.
structure Level where
  options : List OptionName
  operands : Operands
deriving DecidableEq, Repr

inductive Word
  -- Two dashes: what follows are operands.
  | separator
  | long (name : String) (value : Option String)
  | short (letters : List Char)
  | plain
deriving DecidableEq, Repr

def Word.of (word : String) : Word :=
  match word.toList with
  | ['-', '-'] => .separator
  | '-' :: '-' :: rest =>
    match rest.dropWhile (· != '=') with
    | _ :: value =>
      .long (String.ofList (rest.takeWhile (· != '='))) (some (String.ofList value))
    | [] => .long (String.ofList rest) none
  | '-' :: c :: rest => .short (c :: rest)
  | _ => .plain

inductive Stop
  | misuse
  | help
deriving DecidableEq, Repr

structure Given where
  -- The options in order, each with its value, which is empty for one without.
  options : List (OptionName × String)
  operands : List String
deriving DecidableEq, Repr, Inhabited

namespace Given

def empty : Given := ⟨[], []⟩

def has (g : Given) (o : OptionName) : Bool :=
  g.options.any (·.1 = o)

def value? (g : Given) (o : OptionName) : Option String :=
  g.options.lookup o

def values (g : Given) (o : OptionName) : List String :=
  (g.options.filter (·.1 = o)).map (·.2)

-- An option that is there already can only be given again if it is repeatable.
def addOption (g : Given) (o : OptionName) (value : String) : Except Stop Given :=
  if (g.has o && !o.isRepeatable) || !o.accepts value then .error .misuse
  else .ok { g with options := g.options ++ [(o, value)] }

end Given

namespace Level

def allows (l : Level) (operands : List String) : Bool :=
  match l.operands with
  | .none => operands.isEmpty
  | .atMostOne => operands.length ≤ 1
  | .command | .subcommand => !operands.isEmpty

-- Reads on; `pending` is an option whose value is due. A word that looks like an option never is that
-- value, unless the level takes a command and the option is unknown.
def readFrom (l : Level) (pending : Option OptionName) (g : Given) :
    List String → Except Stop Given
  | [] => if pending.isNone && l.allows g.operands then .ok g else .error .misuse
  | w :: rest =>
    -- a word that is no option of this level
    let other : Except Stop Given :=
      match pending with
      | some o => (g.addOption o w).bind fun g => l.readFrom none g rest
      | none =>
        match l.operands with
        | .none => .error .misuse
        | .atMostOne =>
          if g.operands.isEmpty then l.readFrom none { g with operands := [w] } rest
          else .error .misuse
        | .command | .subcommand => .ok { g with operands := w :: rest }
    let unknown : Except Stop Given :=
      if l.operands = .command then other else .error .misuse
    let asked : Except Stop Given :=
      .error (if pending.isSome then .misuse else .help)
    match Word.of w with
    | .plain => other
    | .separator =>
      if pending.isSome || l.operands = .subcommand then .error .misuse
      else
        let operands := g.operands ++ rest
        if l.allows operands then .ok { g with operands } else .error .misuse
    | .long name value =>
      match l.options.find? (·.text = name) with
      | none => unknown
      | some o =>
        if pending.isSome then .error .misuse
        else if o.takesValue then
          match value with
          | some v => (g.addOption o v).bind fun g => l.readFrom none g rest
          | none => l.readFrom (some o) g rest
        else if value.isSome then .error .misuse
        else if o = .help then asked
        else (g.addOption o "").bind fun g => l.readFrom none g rest
    | .short letters =>
      if letters.all (· = helpLetter) then asked
      else if l.operands = .command then other
      else if letters.head? = some helpLetter then asked
      else .error .misuse

-- Words are read from left to right, and the first that cannot be understood ends the reading. An option
-- stands with its value in one word, joined by `=`, or in two.
def read (l : Level) (words : List String) : Except Stop Given :=
  l.readFrom none .empty words

end Level

example : Word.of "--asset=a=b" = .long "asset" (some "a=b") := by decide +kernel
example : Word.of "-" = .plain := by decide +kernel

end AccessControl.CommandLine
