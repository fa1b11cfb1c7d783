import AccessControl.Json.Value
import AccessControl.Text.Quoted

namespace AccessControl
namespace Json

-- How floating-point numbers are written: positional for exponents from -5 to 15, always with a
-- fraction; otherwise with a signed exponent.
def numberLayout : NumberLayout := ⟨-5, 15, 'e', ['+']⟩

def Number.chars : Number → List Char
  | .integer (.ofNat n) => Nat.toDigits 10 n
  | .integer (.negSucc n) => '-' :: Nat.toDigits 10 (n + 1)
  | .float x => numberLayout.text x

-- The kind of value that was met, with as much of it as a message shows.
inductive Found
  | null
  | bool (b : Bool)
  | number (n : Number)
  | string (s : String)
  | sequence
  | map
deriving DecidableEq, Repr

inductive Expected
  | text
  | path
  | natural64
  | natural32
  | flag
  | sequence
  | settings
  | response
  | decision
deriving DecidableEq, Repr

inductive ReadError
  | eofValue
  | eofString
  | eofList
  | eofObject
  | expectedValue
  | expectedLiteral
  | expectedColon
  | expectedListEnd
  | expectedObjectEnd
  | keyNotString
  | trailingComma
  | trailingCharacters
  | invalidNumber
  | numberOutOfRange
  | invalidEscape
  | controlCharacter
  | hexEscapeEnd
  | loneSurrogate
  | invalidCodePoint
  | recursionLimit
  | wrongType (found : Found) (expected : Expected)
  | outOfRange (value : Int) (expected : Expected)
  | duplicateKey (key : String)
  | tooLong (length : Nat)
deriving DecidableEq, Repr

def Found.of : Json → Found
  | .null => .null
  | .bool b => .bool b
  | .number n => .number n
  | .string s => .string s
  | .array _ => .sequence
  | .object _ => .map

def Found.phrase : Found → String
  | .null => "null"
  | .bool true => "boolean `true`"
  | .bool false => "boolean `false`"
  | .number (.integer i) => "integer `" ++ String.ofList (Number.chars (.integer i)) ++ "`"
  | .number (.float x) => "floating point `" ++ String.ofList (Number.chars (.float x)) ++ "`"
  | .string s => "string " ++ Text.quote s
  | .sequence => "sequence"
  | .map => "map"

def Expected.phrase : Expected → String
  | .text => "a string"
  | .path => "path string"
  | .natural64 => "u64"
  | .natural32 => "u32"
  | .flag => "a boolean"
  | .sequence => "a sequence"
  | .settings => "struct FileConfig"
  | .response => "struct DecisionsResponse"
  | .decision => "struct WireDecision"

-- What is wrong. Where it is wrong is left out: a reader that tells it puts the line and the column behind
-- these words, as in ` at line 1 column 5`.
def ReadError.message : ReadError → String
  | .eofValue => "EOF while parsing a value"
  | .eofString => "EOF while parsing a string"
  | .eofList => "EOF while parsing a list"
  | .eofObject => "EOF while parsing an object"
  | .expectedValue => "expected value"
  | .expectedLiteral => "expected ident"
  | .expectedColon => "expected `:`"
  | .expectedListEnd => "expected `,` or `]`"
  | .expectedObjectEnd => "expected `,` or `\x7d`"
  | .keyNotString => "key must be a string"
  | .trailingComma => "trailing comma"
  | .trailingCharacters => "trailing characters"
  | .invalidNumber => "invalid number"
  | .numberOutOfRange => "number out of range"
  | .invalidEscape => "invalid escape"
  | .controlCharacter => "control character (\\u0000-\\u001F) found while parsing a string"
  | .hexEscapeEnd => "unexpected end of hex escape"
  | .loneSurrogate => "lone leading surrogate in hex escape"
  | .invalidCodePoint => "invalid unicode code point"
  | .recursionLimit => "recursion limit exceeded"
  | .wrongType found expected =>
    "invalid type: " ++ found.phrase ++ ", expected " ++ expected.phrase
  | .outOfRange value expected =>
    "invalid value: " ++ (Found.number (.integer value)).phrase ++ ", expected " ++ expected.phrase
  | .duplicateKey key => "duplicate field `" ++ key ++ "`"
  | .tooLong length =>
    "invalid length " ++ toString length ++ ", expected fewer elements in array"

end Json
end AccessControl
