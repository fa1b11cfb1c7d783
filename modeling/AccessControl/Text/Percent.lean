import AccessControl.Text.Hex
import AccessControl.Text.Utf8

namespace AccessControl.Percent

def digit (value : Nat) : Char :=
  "0123456789ABCDEF".toList.getD value '0'

def encodeByte (b : UInt8) : List Char :=
  ['%', digit (b.toNat / 16), digit (b.toNat % 16)]

-- Writes the characters for which `escaped` holds, and all those past ASCII, byte by byte.
def encode (escaped : Char → Bool) (cs : List Char) : List Char :=
  cs.flatMap fun c =>
    if escaped c || 0x7F ≤ c.toNat then (Utf8.encode [c]).flatMap encodeByte else [c]

-- The bytes due after a `%` are read with it or not at all: a `%` that two digits do not follow is left
-- as it is.
def decode : Bytes → Bytes
  | 0x25 :: h :: l :: rest =>
    match Text.hexByte? h, Text.hexByte? l with
    | some hi, some lo => UInt8.ofNat (hi * 16 + lo) :: decode rest
    | _, _ => 0x25 :: decode (h :: l :: rest)
  | b :: rest => b :: decode rest
  | [] => []

def decodeText (cs : List Char) : Bytes :=
  decode (Utf8.encode cs)

example : encode (· == ' ') "a é".toList = "a%20%C3%A9".toList := by decide +kernel
example : decodeText "%41%4".toList = "A%4".toUTF8.toList := by decide +kernel

end AccessControl.Percent
