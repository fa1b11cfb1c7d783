import AccessControl.Json.Error
import AccessControl.Text.Hex

namespace AccessControl.Json

def hex4 (n : Nat) : List Char :=
  [n / 0x1000 % 0x10, n / 0x100 % 0x10, n / 0x10 % 0x10, n % 0x10].map Text.hexDigit

-- Only what must be is escaped, so that a text never holds a control character of the ASCII range.
def escapeChar (c : Char) : List Char :=
  if c == '"' then ['\\', '"']
  else if c == '\\' then ['\\', '\\']
  else if c == '\x08' then ['\\', 'b']
  else if c == '\x0c' then ['\\', 'f']
  else if c == '\n' then ['\\', 'n']
  else if c == '\r' then ['\\', 'r']
  else if c == '\t' then ['\\', 't']
  else if c.toNat < 0x20 then ['\\', 'u'] ++ hex4 c.toNat
  else [c]

def stringChars (s : String) : List Char :=
  '"' :: s.toList.flatMap escapeChar ++ ['"']

def boolChars (b : Bool) : List Char :=
  if b then ['t', 'r', 'u', 'e'] else ['f', 'a', 'l', 's', 'e']

mutual

-- A value without blanks.
def compactChars : Json → List Char
  | .null => ['n', 'u', 'l', 'l']
  | .bool b => boolChars b
  | .number n => n.chars
  | .string s => stringChars s
  | .array items => '[' :: compactItems items ++ [']']
  | .object members => '{' :: compactMembers members ++ ['}']

def compactItems : List Json → List Char
  | [] => []
  | [v] => compactChars v
  | v :: vs => compactChars v ++ ',' :: compactItems vs

def compactMembers : List (String × Json) → List Char
  | [] => []
  | [(k, v)] => stringChars k ++ ':' :: compactChars v
  | (k, v) :: ms => stringChars k ++ ':' :: (compactChars v ++ ',' :: compactMembers ms)

end

def newLine (level : Nat) : List Char :=
  '\n' :: List.replicate (2 * level) ' '

mutual

-- A value with every item and member on a line of its own.
def prettyChars (level : Nat) : Json → List Char
  | .null => ['n', 'u', 'l', 'l']
  | .bool b => boolChars b
  | .number n => n.chars
  | .string s => stringChars s
  | .array [] => ['[', ']']
  | .array (v :: vs) => '[' :: prettyItems (level + 1) (v :: vs) ++ newLine level ++ [']']
  | .object [] => ['{', '}']
  | .object (m :: ms) => '{' :: prettyMembers (level + 1) (m :: ms) ++ newLine level ++ ['}']

def prettyItems (level : Nat) : List Json → List Char
  | [] => []
  | [v] => newLine level ++ prettyChars level v
  | v :: vs => newLine level ++ prettyChars level v ++ ',' :: prettyItems level vs

def prettyMembers (level : Nat) : List (String × Json) → List Char
  | [] => []
  | [(k, v)] => newLine level ++ stringChars k ++ ':' :: ' ' :: prettyChars level v
  | (k, v) :: ms =>
    newLine level ++ stringChars k ++ ':' :: ' ' :: (prettyChars level v ++ ',' :: prettyMembers level ms)

end

def compact (v : Json) : String :=
  String.ofList (compactChars v)

def pretty (v : Json) : String :=
  String.ofList (prettyChars 0 v)

end AccessControl.Json
