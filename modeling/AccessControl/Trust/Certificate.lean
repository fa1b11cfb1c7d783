import AccessControl.Text.Utf8

namespace AccessControl.Certificate

inductive Tag
  | boolean
  | integer
  | bitString
  | octetString
  | identifier
  | sequence
  | version
  | extensions
deriving DecidableEq, Repr

def Tag.byte : Tag → UInt8
  | .boolean => 0x01
  | .integer => 0x02
  | .bitString => 0x03
  | .octetString => 0x04
  | .identifier => 0x06
  | .sequence => 0x30
  | .version => 0xA0
  | .extensions => 0xA3

-- Contents are shorter than this, so that no length takes more than two bytes.
def contentLimit : Nat := 0xFFFF

-- A length in as few bytes as possible: one below 0x80, else a first byte that counts the others.
def readLength? : Bytes → Option (Nat × Bytes)
  | 0x81 :: n :: rest => if 0x80 ≤ n then some (n.toNat, rest) else none
  | 0x82 :: high :: low :: rest => if 0 < high then some (high.toNat * 0x100 + low.toNat, rest) else none
  | n :: rest => if n < 0x80 then some (n.toNat, rest) else none
  | [] => none

-- The content of the element at the front, and what follows it.
def readElement? (tag : Tag) : Bytes → Option (Bytes × Bytes)
  | [] => none
  | b :: rest =>
    if b = tag.byte then do
      let (n, rest) ← readLength? rest
      let content := rest.take n
      if n < contentLimit && content.length = n then some (content, rest.drop n) else none
    else none

def readOnly? (tag : Tag) (bytes : Bytes) : Option Bytes :=
  match readElement? tag bytes with
  | some (content, []) => some content
  | _ => none

-- The contents of all elements; each takes up bytes, so that there are no more of them than `fuel`.
def readAll? (tag : Tag) : (fuel : Nat) → Bytes → Option (List Bytes)
  | _, [] => some []
  | 0, _ :: _ => none
  | fuel + 1, b :: rest => do
    let (content, rest) ← readElement? tag (b :: rest)
    let contents ← readAll? tag fuel rest
    return content :: contents

structure Extension where
  identifier : Bytes
  value : Bytes
deriving DecidableEq, Repr

namespace Extension

-- Extensions may say whether they are critical. Gives what follows that.
def skipCritical? (bytes : Bytes) : Option Bytes :=
  if bytes.head? = some Tag.boolean.byte then
    match readElement? .boolean bytes with
    | some ([b], rest) => if b = 0xFF || b = 0x00 then some rest else none
    | _ => none
  else some bytes

def read? (bytes : Bytes) : Option Extension := do
  let (identifier, rest) ← readElement? .identifier bytes
  let rest ← skipCritical? rest
  let value ← readOnly? .octetString rest
  return { identifier, value }

def keyUsage : UInt8 := 15

-- The last bytes of the identifiers of the extensions that are of use: besides `keyUsage` other names
-- of the subject, basic constraints, constraints of names, points that distribute revocations, and
-- extended uses of the key.
def useful : List UInt8 := [keyUsage, 17, 19, 30, 31, 37]

def useful? (e : Extension) : Option UInt8 :=
  match e.identifier with
  | [0x55, 0x1D, n] => if useful.contains n then some n else none
  | _ => none

-- The useful extensions hold a sequence, the uses of a key apart.
def isAcceptable (e : Extension) : Bool :=
  e.useful?.all fun n => n == keyUsage || (readOnly? .sequence e.value).isSome

end Extension

-- The extensions, of which the useful ones come no more than once.
def areExtensions (bytes : Bytes) : Bool :=
  let extensions? : Option (List Extension) := do
    let contents ← readAll? .sequence bytes.length bytes
    contents.mapM Extension.read?
  match extensions? with
  | some extensions =>
    extensions.all (·.isAcceptable) && decide (extensions.filterMap (·.useful?)).Nodup
  | none => false

def endsWell (bytes : Bytes) : Bool :=
  bytes.isEmpty || (((readOnly? .extensions bytes).bind (readOnly? .sequence)).map areExtensions).getD false

-- What comes after the version: the algorithm, and what follows the key.
def readFields? (bytes : Bytes) : Option (Bytes × Bytes) := do
  let (_serial, rest) ← readElement? .integer bytes
  let (algorithm, rest) ← readElement? .sequence rest
  let (_issuer, rest) ← readElement? .sequence rest
  let (_validity, rest) ← readElement? .sequence rest
  let (_subject, rest) ← readElement? .sequence rest
  let (_key, rest) ← readElement? .sequence rest
  return (algorithm, rest)

-- The signed part, given the algorithm of the signature. A certificate that names a version is one of
-- the third, and repeats the algorithm; one without is of the first, and ends with the key.
def isSignedPart (algorithm content : Bytes) : Bool :=
  match readElement? .version content with
  | some (version, rest) =>
    readOnly? .integer version = some [2] &&
      match readFields? rest with
      | some (repeated, rest) => repeated = algorithm && endsWell rest
      | none => false
  | none =>
    match readFields? content with
    | some (_, rest) => rest.isEmpty
    | none => false

-- The outward shape of a certificate in DER. Only what makes it acceptable as an authority is looked at:
-- what is in extensions of no use here does not matter, critical or not.
def isWellFormed (der : Bytes) : Bool :=
  let parts : Option Bool := do
    let whole ← readOnly? .sequence der
    let (signed, rest) ← readElement? .sequence whole
    let (algorithm, rest) ← readElement? .sequence rest
    let signature ← readOnly? .bitString rest
    return signature.head? = some 0 && isSignedPart algorithm signed
  parts.getD false

example : isWellFormed [0, 0, 0] = false := by decide +kernel
example : readLength? [0x82, 0x01, 0x00] = some (0x100, []) := by decide
example : readLength? [0x81, 0x7F] = none := by decide

end AccessControl.Certificate
