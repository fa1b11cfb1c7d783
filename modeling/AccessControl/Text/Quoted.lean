import AccessControl.Text.Unprintable

namespace AccessControl.Text

-- Lower-case hexadecimal digits, without leading zeros.
def hexChars (n : Nat) : List Char :=
  Nat.toDigits 16 n

-- Which quotation marks are escaped: always the double one, the single one only in paths.
inductive QuoteStyle
  | text
  | path
deriving DecidableEq, Repr

def quoteChar (style : QuoteStyle) (c : Char) : List Char :=
  if c == '\x00' then ['\\', '0']
  else if c == '\t' then ['\\', 't']
  else if c == '\r' then ['\\', 'r']
  else if c == '\n' then ['\\', 'n']
  else if c == '\\' then ['\\', '\\']
  else if c == '"' then ['\\', '"']
  else if c == '\'' && style == .path then ['\\', '\'']
  else if isUnprintable c then ['\\', 'u', '\x7b'] ++ hexChars c.toNat ++ ['\x7d']
  else [c]

def quoteWith (style : QuoteStyle) (s : String) : String :=
  String.ofList ('"' :: s.toList.flatMap (quoteChar style) ++ ['"'])

def quote (s : String) : String :=
  quoteWith .text s

end AccessControl.Text
