import AccessControl.Http.Scan

namespace AccessControl.Http

inductive Version
  | http10
  | http11
deriving DecidableEq, Repr, Inhabited

-- A header field. Names are in lower case, values without the blanks around them.
structure Field where
  name : String
  value : Bytes
deriving DecidableEq, Repr, Inhabited

structure Head where
  version : Version
  status : Nat
  fields : List Field
deriving DecidableEq, Repr, Inhabited

def maxFields : Nat := 100

def maxFieldName : Nat := 65535

def isTokenByte (b : UInt8) : Bool :=
  (0x30 ≤ b && b ≤ 0x39) || (0x41 ≤ b && b ≤ 0x5A) || (0x61 ≤ b && b ≤ 0x7A) ||
    "!#$%&'*+-.^_`|~".toUTF8.toList.contains b

-- A byte that may stand in a value: no control but the tab.
def isValueByte (b : UInt8) : Bool :=
  b == 0x09 || (0x20 ≤ b && b != 0x7F)

def isFieldBlank (b : UInt8) : Bool :=
  b == 0x20 || b == 0x09

def trimField (bytes : Bytes) : Bytes :=
  ((bytes.dropWhile isFieldBlank).reverse.dropWhile isFieldBlank).reverse

namespace Field

-- A field with the end of its line.
def scan (bytes : Bytes) : Scan Field :=
  (Scan.while_ isTokenByte [] bytes).bind fun name rest =>
    if name.isEmpty || maxFieldName < name.length then .malformed
    else
      (Scan.exactly [0x3A] rest).bind fun () rest =>
        (Scan.while_ isValueByte [] rest).bind fun value rest =>
          (Scan.lineEnd rest).map fun () =>
            ⟨Utf8.decodeStringLossy name |>.toLower, trimField value⟩

-- The fields up to the empty line, `room` of them at most.
def scanAll (acc : List Field) : (room : Nat) → Bytes → Scan (List Field)
  | _, [] => .more
  | room, b :: rest =>
    if b = 0x0D || b = 0x0A then (Scan.lineEnd (b :: rest)).map fun () => acc.reverse
    else
      match room with
      | 0 => .malformed
      | room + 1 => (scan (b :: rest)).bind fun f rest => scanAll (f :: acc) room rest

end Field

namespace Head

def skipBlankLines : Bytes → Bytes
  | 0x0D :: 0x0A :: rest => skipBlankLines rest
  | 0x0A :: rest => skipBlankLines rest
  | bytes => bytes

def scanVersion (bytes : Bytes) : Scan Version :=
  (Scan.exactly "HTTP/1.".toUTF8.toList bytes).bind fun () rest =>
    match rest with
    | 0x30 :: rest => .done .http10 rest
    | 0x31 :: rest => .done .http11 rest
    | [] => .more
    | _ => .malformed

-- `count` decimal digits after the number `n`.
def scanDigits (n : Nat) : (count : Nat) → Bytes → Scan Nat
  | 0, rest => .done n rest
  | _ + 1, [] => .more
  | count + 1, b :: rest =>
    if 0x30 ≤ b && b ≤ 0x39 then scanDigits (n * 10 + (b.toNat - 0x30)) count rest else .malformed

-- The words after a status, if any, and the end of the line.
def scanReason : Bytes → Scan Unit
  | 0x20 :: rest => (Scan.while_ isValueByte [] rest).bind fun _ rest => Scan.lineEnd rest
  | bytes => Scan.lineEnd bytes

-- A head with the empty line that ends it. Statuses have three digits, the first of them not zero.
def scan (bytes : Bytes) : Scan Head :=
  (scanVersion (skipBlankLines bytes)).bind fun version rest =>
    (Scan.exactly [0x20] rest).bind fun () rest =>
      (scanDigits 0 3 rest).bind fun status rest =>
        (scanReason rest).bind fun () rest =>
          (Field.scanAll [] maxFields rest).bind fun fields rest =>
            if status < 100 then .malformed else .done ⟨version, status, fields⟩ rest

def values (h : Head) (name : String) : List Bytes :=
  (h.fields.filter (·.name = name)).map (·.value)

end Head
end AccessControl.Http
