import AccessControl.Json.Reader
import AccessControl.Json.Skip

namespace AccessControl.Json

-- Why the value at the front of `bytes`, which is not of the kind called for, is refused. As much of it
-- is read as the message needs, and a fault in that part is reported instead.
def mismatch (expected : Expected) (bytes : Bytes) : ReadError :=
  match skipBlanks bytes with
  | [] => .eofValue
  | b :: rest =>
    let found : Except ReadError Found :=
      if b = 0x6E then (readNull rest).map fun _ => .null
      else if b = 0x74 then (readTrue rest).map fun _ => .bool true
      else if b = 0x66 then (readFalse rest).map fun _ => .bool false
      else if b = 0x22 then (readString rest).map fun (s, _) => .string s
      else if b = 0x2D then (readNumber true rest).map fun (n, _) => .number n
      else if isDigit b then (readNumber false (b :: rest)).map fun (n, _) => .number n
      else if b = 0x5B then .ok .sequence
      else if b = 0x7B then .ok .map
      else .error .expectedValue
    match found with
    | .ok f => .wrongType f expected
    | .error e => e

def readText (expected : Expected) (bytes : Bytes) : Read String :=
  match skipBlanks bytes with
  | b :: rest => if b = 0x22 then readString rest else .error (mismatch expected bytes)
  | [] => .error (mismatch expected bytes)

def readFlag (bytes : Bytes) : Read Bool :=
  match skipBlanks bytes with
  | b :: rest =>
    if b = 0x74 then (readTrue rest).map (true, ·)
    else if b = 0x66 then (readFalse rest).map (false, ·)
    else .error (mismatch .flag bytes)
  | [] => .error (mismatch .flag bytes)

def Number.toNatural (limit : Nat) (expected : Expected) : Number → Except ReadError Nat
  | .integer (.ofNat n) => if n < limit then .ok n else .error (.outOfRange n expected)
  | .integer i => .error (.outOfRange i expected)
  | .float x => .error (.wrongType (.number (.float x)) expected)

def readNatural (limit : Nat) (expected : Expected) (bytes : Bytes) : Read Nat :=
  let number : Read Number := match skipBlanks bytes with
    | b :: rest =>
      if b = 0x2D then readNumber true rest
      else if isDigit b then readNumber false (b :: rest)
      else .error (mismatch expected bytes)
    | [] => .error (mismatch expected bytes)
  match number with
  | .ok (n, rest) => (n.toNatural limit expected).map (·, rest)
  | .error e => .error e

-- A value, or `null` for none.
def readOptional (item : Bytes → Read α) (bytes : Bytes) : Read (Option α) :=
  match skipBlanks bytes with
  | b :: rest =>
    if b = 0x6E then (readNull rest).map (none, ·)
    else (item bytes).map fun (v, rest) => (some v, rest)
  | [] => (item bytes).map fun (v, rest) => (some v, rest)

-- The end of a list after which no further item is read.
def readListEnd (bytes : Bytes) : Except ReadError Bytes :=
  match skipBlanks bytes with
  | [] => .error .eofList
  | b :: rest =>
    if b = 0x5D then .ok rest
    else if b = 0x2C then
      match skipBlanks rest with
      | c :: _ => if c = 0x5D then .error .trailingComma else .error .trailingCharacters
      | [] => .error .trailingCharacters
    else .error .trailingCharacters

end AccessControl.Json
