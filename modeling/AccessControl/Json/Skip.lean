import AccessControl.Json.Lexeme

namespace AccessControl.Json

inductive Bracket
  | list
  | object
deriving DecidableEq, Repr

-- A string whose opening quote has been read.
def skipString : Bytes → Except ReadError Bytes
  | [] => .error .eofString
  | b :: rest =>
    if b = 0x22 then .ok rest
    else if b = 0x5C then
      match rest with
      | [] => .error .eofString
      | e :: rest =>
        if e = 0x75 then
          match rest with
          | h₁ :: h₂ :: h₃ :: h₄ :: rest =>
            if (hex4? h₁ h₂ h₃ h₄).isSome then skipString rest else .error .invalidEscape
          | _ => .error .eofString
        else if (shortEscape? e).isSome then skipString rest
        else .error .invalidEscape
    else if b < 0x20 then .error .controlCharacter
    else skipString rest

-- An exponent whose mark has been read.
def skipExponent (bytes : Bytes) : Except ReadError Bytes :=
  let digits := match bytes with
    | b :: rest => if b = 0x2B ∨ b = 0x2D then rest else bytes
    | [] => []
  match digits with
  | b :: rest => if isDigit b then .ok (rest.dropWhile isDigit) else .error .invalidNumber
  | [] => .error .invalidNumber

-- A fraction whose point has been read.
def skipFraction (bytes : Bytes) : Except ReadError Bytes :=
  match bytes with
  | d :: rest =>
    if isDigit d then
      match rest.dropWhile isDigit with
      | e :: rest => if isExponentMark e then skipExponent rest else .ok (e :: rest)
      | [] => .ok []
    else .error .invalidNumber
  | [] => .error .invalidNumber

def skipAfterInteger (bytes : Bytes) : Except ReadError Bytes :=
  match bytes with
  | b :: rest =>
    if b = 0x2E then skipFraction rest
    else if isExponentMark b then skipExponent rest
    else .ok bytes
  | [] => .ok []

-- A number whose sign, if it has one, has been read.
def skipNumber (bytes : Bytes) : Except ReadError Bytes :=
  match bytes with
  | b :: rest =>
    if b = 0x30 then
      match rest with
      | d :: _ => if isDigit d then .error .invalidNumber else skipAfterInteger rest
      | [] => .ok []
    else if isDigit b then skipAfterInteger (rest.dropWhile isDigit)
    else .error .invalidNumber
  | [] => .error .invalidNumber

def skipKey (bytes : Bytes) : Except ReadError Bytes :=
  match skipBlanks bytes with
  | [] => .error .eofObject
  | b :: rest =>
    if b = 0x22 then
      match skipString rest with
      | .error e => .error e
      | .ok rest =>
        match skipBlanks rest with
        | [] => .error .eofObject
        | c :: rest => if c = 0x3A then .ok rest else .error .expectedColon
    else .error .keyNotString

-- Where the reading stands: before a value, or after one (or after an opening bracket, when no comma
-- is due) inside the bracket on top of the stack.
inductive Cursor
  | value
  | inside (comma : Bool)

-- Goes on until every open bracket is closed. Each step uses up a byte, so that a count above their
-- number is never exhausted.
def skipFrom : (fuel : Nat) → Cursor → List Bracket → Bytes → Except ReadError Bytes
  | 0, _, _, _ => .error .eofValue
  | fuel + 1, .value, stack, bytes =>
    match skipBlanks bytes with
    | [] => .error .eofValue
    | b :: rest =>
      if b = 0x5B then skipFrom fuel (.inside false) (.list :: stack) rest
      else if b = 0x7B then skipFrom fuel (.inside false) (.object :: stack) rest
      else
        let after :=
          if b = 0x6E then readNull rest
          else if b = 0x74 then readTrue rest
          else if b = 0x66 then readFalse rest
          else if b = 0x2D then skipNumber rest
          else if isDigit b then skipNumber (b :: rest)
          else if b = 0x22 then skipString rest
          else .error .expectedValue
        match after with
        | .error e => .error e
        | .ok rest => if stack.isEmpty then .ok rest else skipFrom fuel (.inside true) stack rest
  | _ + 1, .inside _, [], bytes => .ok bytes
  | fuel + 1, .inside comma, top :: stack, bytes =>
    match skipBlanks bytes with
    | [] => .error (if top = .list then .eofList else .eofObject)
    | b :: rest =>
      if b = 0x5D ∧ top = .list ∨ b = 0x7D ∧ top = .object then
        if stack.isEmpty then .ok rest else skipFrom fuel (.inside true) stack rest
      else if comma ∧ b ≠ 0x2C then
        .error (if top = .list then .expectedListEnd else .expectedObjectEnd)
      else
        let bytes := if comma then rest else b :: rest
        match top with
        | .list => skipFrom fuel .value (.list :: stack) bytes
        | .object =>
          match skipKey bytes with
          | .error e => .error e
          | .ok rest => skipFrom fuel .value (.object :: stack) rest

-- The bytes after one value of any kind, in a text of at most `length` bytes. Its syntax is checked, but
-- nothing of it is kept: numbers have no range, escapes need not pair up, bytes need not be UTF-8 and
-- brackets nest without bound.
def skipValue (length : Nat) (bytes : Bytes) : Except ReadError Bytes :=
  skipFrom (2 * length + 2) .value [] bytes

end AccessControl.Json
