import AccessControl.Text.Utf8

namespace AccessControl.Base64

def alphabet : List Char :=
  "ABCDEFGHIJKLMNOPQRSTUVWXYZabcdefghijklmnopqrstuvwxyz0123456789+/".toList

def digit (value : Nat) : Char :=
  alphabet.getD value '='

def encode : Bytes → List Char
  | a :: b :: c :: rest =>
    let n := a.toNat * 0x10000 + b.toNat * 0x100 + c.toNat
    digit (n / 0x40000) :: digit (n / 0x1000 % 0x40) :: digit (n / 0x40 % 0x40) ::
      digit (n % 0x40) :: encode rest
  | [a, b] =>
    let n := a.toNat * 0x100 + b.toNat
    [digit (n / 0x400), digit (n / 0x10 % 0x40), digit (n % 0x10 * 4), '=']
  | [a] => [digit (a.toNat / 4), digit (a.toNat % 4 * 0x10), '=', '=']
  | [] => []

def value? (b : UInt8) : Option Nat :=
  if 0x41 ≤ b && b ≤ 0x5A then some (b.toNat - 0x41)
  else if 0x61 ≤ b && b ≤ 0x7A then some (b.toNat - 0x61 + 26)
  else if 0x30 ≤ b && b ≤ 0x39 then some (b.toNat - 0x30 + 52)
  else if b == 0x2B then some 62
  else if b == 0x2F then some 63
  else none

def isSkipped (b : UInt8) : Bool :=
  b == 0x20 || (0x9 ≤ b && b ≤ 0xD)

-- Reads groups of four values; the last group may have two or three.
def bytesOfValues : List Nat → Option Bytes
  | [] => some []
  | [a, b] => some [UInt8.ofNat (a * 4 + b / 0x10)]
  | [a, b, c] => some [UInt8.ofNat (a * 4 + b / 0x10), UInt8.ofNat (b % 0x10 * 0x10 + c / 4)]
  | a :: b :: c :: d :: rest =>
    (bytesOfValues rest).map fun bytes =>
      UInt8.ofNat (a * 4 + b / 0x10) :: UInt8.ofNat (b % 0x10 * 0x10 + c / 4) ::
        UInt8.ofNat (c % 4 * 0x40 + d) :: bytes
  | [_] => none

-- Takes an end that is not filled up as well, and passes over blanks.
def decode? (text : Bytes) : Option Bytes :=
  let text := text.filter (!isSkipped ·)
  let digits := text.takeWhile (· != 0x3D)
  let filling := text.dropWhile (· != 0x3D)
  if filling.all (· == 0x3D) && filling.length ≤ 2 &&
      (filling.isEmpty || (digits.length + filling.length) % 4 == 0) then
    (digits.mapM value?).bind bytesOfValues
  else none

example : encode "user:pw".toUTF8.toList = "dXNlcjpwdw==".toList := by decide +kernel
example : decode? "Zm9v YmE=\n".toUTF8.toList = some "fooba".toUTF8.toList := by decide +kernel
example : decode? "Zm9vYmE".toUTF8.toList = some "fooba".toUTF8.toList := by decide +kernel
example : decode? "Zm9vYmE==".toUTF8.toList = none := by decide +kernel
example : decode? "!!!!".toUTF8.toList = none := by decide +kernel

end AccessControl.Base64
