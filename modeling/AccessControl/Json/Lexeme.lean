import AccessControl.Json.Error
import AccessControl.Text.Hex
import AccessControl.Text.Utf8

namespace AccessControl.Json

-- What was read, and the bytes after it.
abbrev Read (α : Type) := Except ReadError (α × Bytes)

def isBlankByte (b : UInt8) : Bool :=
  b == 0x20 || b == 0x0A || b == 0x09 || b == 0x0D

def skipBlanks (bytes : Bytes) : Bytes :=
  bytes.dropWhile isBlankByte

def isDigit (b : UInt8) : Bool :=
  0x30 ≤ b && b ≤ 0x39

def digitValue (b : UInt8) : Nat :=
  b.toNat - 0x30

-- The rest of a word whose first letter has been read.
def readWord : (word : Bytes) → Bytes → Except ReadError Bytes
  | [], rest => .ok rest
  | _ :: _, [] => .error .eofValue
  | w :: ws, b :: rest => if b = w then readWord ws rest else .error .expectedLiteral

def readNull (bytes : Bytes) : Except ReadError Bytes := readWord [0x75, 0x6C, 0x6C] bytes

def readTrue (bytes : Bytes) : Except ReadError Bytes := readWord [0x72, 0x75, 0x65] bytes

def readFalse (bytes : Bytes) : Except ReadError Bytes := readWord [0x61, 0x6C, 0x73, 0x65] bytes

def hex4? (a b c d : UInt8) : Option Nat := do
  let [a, b, c, d] ← [a, b, c, d].mapM Text.hexByte? | none
  return ((a * 16 + b) * 16 + c) * 16 + d

def shortEscape? (b : UInt8) : Option UInt8 :=
  if b == 0x22 || b == 0x5C || b == 0x2F then some b
  else if b == 0x62 then some 0x08
  else if b == 0x66 then some 0x0C
  else if b == 0x6E then some 0x0A
  else if b == 0x72 then some 0x0D
  else if b == 0x74 then some 0x09
  else none

def isHighSurrogate (n : Nat) : Bool := 0xD800 ≤ n && n ≤ 0xDBFF

def isLowSurrogate (n : Nat) : Bool := 0xDC00 ≤ n && n ≤ 0xDFFF

-- Puts the bytes of a code point before bytes kept in reverse.
def pushCodePoint (n : Nat) (acc : Bytes) : Bytes :=
  (String.utf8EncodeChar (Char.ofNat n)).reverse ++ acc

-- A string is checked to be UTF-8 when it closes; bytes outside of strings never need it.
def closeString (acc rest : Bytes) : Read String :=
  match Utf8.decodeString? acc.reverse with
  | some s => .ok (s, rest)
  | none => .error .invalidCodePoint

-- Reads a string on from inside it; `acc` holds its bytes so far, in reverse.
def readStringFrom (acc : Bytes) : Bytes → Read String
  | [] => .error .eofString
  | b :: rest =>
    if b = 0x22 then closeString acc rest
    else if b = 0x5C then
      match rest with
      | [] => .error .eofString
      | e :: rest =>
        if e = 0x75 then
          match rest with
          | h₁ :: h₂ :: h₃ :: h₄ :: rest =>
            match hex4? h₁ h₂ h₃ h₄ with
            | none => .error .invalidEscape
            | some n =>
              if isLowSurrogate n then .error .loneSurrogate
              else if isHighSurrogate n then
                match rest with
                | [] => .error .eofString
                | x :: rest =>
                  if x ≠ 0x5C then .error .hexEscapeEnd
                  else
                    match rest with
                    | [] => .error .eofString
                    | y :: rest =>
                      if y ≠ 0x75 then .error .hexEscapeEnd
                      else
                        match rest with
                        | l₁ :: l₂ :: l₃ :: l₄ :: rest =>
                          match hex4? l₁ l₂ l₃ l₄ with
                          | none => .error .invalidEscape
                          | some m =>
                            if isLowSurrogate m then
                              readStringFrom
                                (pushCodePoint (0x10000 + (n - 0xD800) * 0x400 + (m - 0xDC00)) acc)
                                rest
                            else .error .loneSurrogate
                        | _ => .error .eofString
              else readStringFrom (pushCodePoint n acc) rest
          | _ => .error .eofString
        else
          match shortEscape? e with
          | some c => readStringFrom (c :: acc) rest
          | none => .error .invalidEscape
    else if b < 0x20 then .error .controlCharacter
    else readStringFrom (b :: acc) rest

-- A string whose opening quote has been read.
def readString (bytes : Bytes) : Read String :=
  readStringFrom [] bytes

def maxSignificand : Nat := UInt64.size - 1

def powerOfTen (k : Nat) : Fin Binary64.infinityBits :=
  (Binary64.ofNat (Nat.pow 10 k)).getD Binary64.zero

-- Multiplies by a power of ten in one rounding step, or, far below zero, in steps of `10 ^ 308`;
-- `fuel` steps at most.
def scale (x : Fin Binary64.infinityBits) (e : Int) :
    Nat → Except ReadError (Fin Binary64.infinityBits)
  | 0 => .ok x
  | fuel + 1 =>
    if e.natAbs ≤ 308 then
      if 0 ≤ e then
        match Binary64.mul x (powerOfTen e.natAbs) with
        | some y => .ok y
        | none => .error .numberOutOfRange
      else .ok ((Binary64.div x (powerOfTen e.natAbs)).getD x)
    else if x.val = 0 then .ok x
    else if 0 ≤ e then .error .numberOutOfRange
    else scale ((Binary64.div x (powerOfTen 308)).getD x) (e + 308) fuel

def floatOf (negative : Bool) (significand : Nat) (e : Int) : Except ReadError Number :=
  match scale ((Binary64.ofNat significand).getD Binary64.zero) e (e.natAbs + 1) with
  | .ok x => .ok (.float ⟨negative, x⟩)
  | .error err => .error err

def floatBefore (negative : Bool) (significand : Nat) (e : Int) (rest : Bytes) : Read Number :=
  (floatOf negative significand e).map (·, rest)

-- What an exponent too long to count comes to.
def exponentOverflow (negative expNegative : Bool) (significand : Nat) (rest : Bytes) :
    Read Number :=
  if significand ≠ 0 ∧ expNegative = false then .error .numberOutOfRange
  else .ok (.float ⟨negative, Binary64.zero⟩, rest.dropWhile isDigit)

-- The digits of an exponent after its first; `e` is the number so far.
def readExponentDigits (negative : Bool) (significand : Nat) (start : Int) (expNegative : Bool)
    (e : Nat) : Bytes → Read Number
  | b :: rest =>
    if isDigit b then
      let e' := e * 10 + digitValue b
      if e' < Nat.pow 2 31 then readExponentDigits negative significand start expNegative e' rest
      else exponentOverflow negative expNegative significand rest
    else floatBefore negative significand (if expNegative then start - e else start + e) (b :: rest)
  | [] => floatBefore negative significand (if expNegative then start - e else start + e) []

-- An exponent whose mark has been read.
def readExponent (negative : Bool) (significand : Nat) (start : Int) (bytes : Bytes) :
    Read Number :=
  let (expNegative, digits) := match bytes with
    | b :: rest => if b = 0x2B then (false, rest) else if b = 0x2D then (true, rest) else (false, bytes)
    | [] => (false, [])
  match digits with
  | [] => .error .eofValue
  | b :: rest =>
    if isDigit b then
      readExponentDigits negative significand start expNegative (digitValue b) rest
    else .error .invalidNumber

def isExponentMark (b : UInt8) : Bool := b == 0x65 || b == 0x45

def readOptionalExponent (negative : Bool) (significand : Nat) (e : Int) (bytes : Bytes) :
    Read Number :=
  match bytes with
  | b :: rest =>
    if isExponentMark b then readExponent negative significand e rest
    else floatBefore negative significand e bytes
  | [] => floatBefore negative significand e []

-- The digits after the point; `after` counts those that were kept. Once the significand is full,
-- further digits are read and forgotten.
def readFraction (negative : Bool) (significand : Nat) (before : Nat) (after : Nat) :
    Bytes → Read Number
  | b :: rest =>
    if isDigit b then
      let n := significand * 10 + digitValue b
      if n ≤ maxSignificand then readFraction negative n before (after + 1) rest
      else readOptionalExponent negative significand (before - after) (rest.dropWhile isDigit)
    else if after = 0 then .error .invalidNumber
    else readOptionalExponent negative significand (before - after) (b :: rest)
  | [] =>
    if after = 0 then .error .eofValue
    else floatBefore negative significand (before - after) []

-- The digits of an integer whose significand is full; `e` counts them.
def readLongInteger (negative : Bool) (significand : Nat) (e : Nat) : Bytes → Read Number
  | b :: rest =>
    if isDigit b then readLongInteger negative significand (e + 1) rest
    else if b = 0x2E then readFraction negative significand e 0 rest
    else readOptionalExponent negative significand e (b :: rest)
  | [] => floatBefore negative significand e []

-- An integer that no fraction and no exponent follows. Minus zero, and an integer below the least
-- that 64 bits hold, are floating-point numbers.
def integerOf (negative : Bool) (significand : Nat) : Number :=
  if negative then
    if significand = 0 ∨ Nat.pow 2 63 < significand then
      .float ⟨true, (Binary64.ofNat significand).getD Binary64.zero⟩
    else .integer (-(significand : Int))
  else .integer significand

def readAfterInteger (negative : Bool) (significand : Nat) (bytes : Bytes) : Read Number :=
  match bytes with
  | b :: rest =>
    if b = 0x2E then readFraction negative significand 0 0 rest
    else if isExponentMark b then readExponent negative significand 0 rest
    else .ok (integerOf negative significand, bytes)
  | [] => .ok (integerOf negative significand, [])

-- The digits of an integer after its first.
def readIntegerDigits (negative : Bool) (significand : Nat) : Bytes → Read Number
  | b :: rest =>
    if isDigit b then
      let n := significand * 10 + digitValue b
      if n ≤ maxSignificand then readIntegerDigits negative n rest
      else readLongInteger negative significand 1 rest
    else readAfterInteger negative significand (b :: rest)
  | [] => readAfterInteger negative significand []

-- A number whose sign, if it has one, has been read.
def readNumber (negative : Bool) : Bytes → Read Number
  | [] => .error .eofValue
  | b :: rest =>
    if b = 0x30 then
      match rest with
      | d :: _ => if isDigit d then .error .invalidNumber else readAfterInteger negative 0 rest
      | [] => readAfterInteger negative 0 []
    else if isDigit b then readIntegerDigits negative (digitValue b) rest
    else .error .invalidNumber

end AccessControl.Json
