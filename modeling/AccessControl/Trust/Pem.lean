import AccessControl.Text.Base64

namespace AccessControl.Pem

inductive Kind
  | certificate
  | publicKey
  | rsaPrivateKey
  | pkcs8PrivateKey
  | sec1PrivateKey
  | revocationList
  | signingRequest
  | echConfig
deriving DecidableEq, Repr

def Kind.ofLabel? (label : Bytes) : Option Kind :=
  match Utf8.decodeStringLossy label with
  | "CERTIFICATE" => some .certificate
  | "PUBLIC KEY" => some .publicKey
  | "RSA PRIVATE KEY" => some .rsaPrivateKey
  | "PRIVATE KEY" => some .pkcs8PrivateKey
  | "EC PRIVATE KEY" => some .sec1PrivateKey
  | "X509 CRL" => some .revocationList
  | "CERTIFICATE REQUEST" => some .signingRequest
  | "ECHCONFIG" => some .echConfig
  | _ => none

structure Section where
  kind : Kind
  content : Bytes
deriving DecidableEq, Repr

def beginMark : Bytes := "-----BEGIN ".toUTF8.toList

def endMark (label : Bytes) : Bytes :=
  "-----END ".toUTF8.toList ++ label ++ "-----".toUTF8.toList

-- The lines of a file, with their ends. A line ends after a line feed, or after a carriage return
-- that no line feed follows.
def linesFrom (line : Bytes) : Bytes → List Bytes
  | [] => if line.isEmpty then [] else [line.reverse]
  | 0x0D :: 0x0A :: rest => (0x0A :: 0x0D :: line).reverse :: linesFrom [] rest
  | b :: rest =>
    if b = 0x0A || b = 0x0D then (b :: line).reverse :: linesFrom [] rest
    else linesFrom (b :: line) rest

def lines (bytes : Bytes) : List Bytes :=
  linesFrom [] bytes

-- The label of a line that begins a section; just five dashes must follow it.
def readLabel? (line : Bytes) : Option Bytes :=
  let isTrailing (b : UInt8) : Bool := b == 0x2D || b == 0x0A || b == 0x0D || b == 0x20
  let trailing := line.reverse.takeWhile isTrailing
  if trailing.count 0x2D = 5 then
    let text := line.take (line.length - trailing.length)
    -- blanks in front of the first dash belong to the label
    let blanks := (trailing.reverse.takeWhile (· != 0x2D))
    some ((text ++ blanks).drop beginMark.length)
  else none

-- Reads lines outside of sections, or inside the one with the given label, whose text so far is in
-- reverse.
def readFrom (inside : Option (Bytes × List Bytes)) : List Bytes → Option (List Section)
  | [] => if inside.isNone then some [] else none
  | line :: rest =>
    if beginMark.isPrefixOf line then
      -- a section may begin inside another one, whose text it continues
      (readLabel? line).bind fun label => readFrom (some (label, (inside.map (·.2)).getD [])) rest
    else
      match inside with
      | none => readFrom none rest
      | some (label, text) =>
        if (endMark label).isPrefixOf line then
          match Kind.ofLabel? label with
          | none => readFrom none rest
          | some kind =>
            (Base64.decode? text.reverse.flatten).bind fun content =>
              (readFrom none rest).map (⟨kind, content⟩ :: ·)
        else readFrom (some (label, line :: text)) rest

-- The known sections of a file, if none of them is broken. Text outside of sections is ignored, and so
-- are sections with a label that is none of the known ones, whatever they hold.
def read? (bytes : Bytes) : Option (List Section) :=
  readFrom none (lines bytes)

def certificates? (bytes : Bytes) : Option (List Bytes) :=
  (read? bytes).map fun sections =>
    (sections.filter (·.kind = .certificate)).map (·.content)

example : certificates? "# a\n-----BEGIN CERTIFICATE-----\nAAAA\n-----END CERTIFICATE-----\n".toUTF8.toList =
    some [[0, 0, 0]] := by decide +kernel
example : certificates? "-----BEGIN CERTIFICATE-----\nAAAA\n".toUTF8.toList = none := by
  decide +kernel
example : certificates? "-----BEGIN KEY-----\n!\n-----END KEY-----\n".toUTF8.toList = some [] := by
  decide +kernel

end AccessControl.Pem
