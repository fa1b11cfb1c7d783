namespace AccessControl

abbrev Bytes := List UInt8

namespace Utf8

def encode (cs : List Char) : Bytes :=
  cs.flatMap String.utf8EncodeChar

-- A character that has begun and is not yet whole.
structure Pending where
  code : Nat
  -- How many bytes are due after the next one.
  more : Nat
  -- The least and the greatest byte that may come next.
  low : UInt8
  high : UInt8
deriving DecidableEq, Repr

-- What one more byte makes of the bytes before it.
inductive Step
  | char (c : Char)
  | pending (p : Pending)
  | illFormed
deriving DecidableEq, Repr

-- A byte between characters. The ranges keep out overlong forms, surrogates and numbers past the
-- last code point.
def start (b : UInt8) : Step :=
  if b ≤ 0x7F then .char (Char.ofNat b.toNat)
  else if 0xC2 ≤ b && b ≤ 0xDF then .pending ⟨b.toNat % 0x20, 0, 0x80, 0xBF⟩
  else if b == 0xE0 then .pending ⟨0, 1, 0xA0, 0xBF⟩
  else if b == 0xED then .pending ⟨0xD, 1, 0x80, 0x9F⟩
  else if 0xE1 ≤ b && b ≤ 0xEF then .pending ⟨b.toNat % 0x10, 1, 0x80, 0xBF⟩
  else if b == 0xF0 then .pending ⟨0, 2, 0x90, 0xBF⟩
  else if 0xF1 ≤ b && b ≤ 0xF3 then .pending ⟨b.toNat % 0x08, 2, 0x80, 0xBF⟩
  else if b == 0xF4 then .pending ⟨4, 2, 0x80, 0x8F⟩
  else .illFormed

def Pending.next (p : Pending) (b : UInt8) : Step :=
  if p.low ≤ b && b ≤ p.high then
    let code := p.code * 0x40 + b.toNat % 0x40
    match p.more with
    | 0 => .char (Char.ofNat code)
    | more + 1 => .pending ⟨code, more, 0x80, 0xBF⟩
  else .illFormed

def step : Option Pending → UInt8 → Step
  | none, b => start b
  | some p, b => p.next b

-- Reads on from inside `state`, with the characters read so far in reverse.
def decodeFrom (state : Option Pending) (acc : List Char) : Bytes → Option (List Char)
  | [] => if state.isNone then some acc.reverse else none
  | b :: rest =>
    match step state b with
    | .char c => decodeFrom none (c :: acc) rest
    | .pending p => decodeFrom (some p) acc rest
    | .illFormed => none

-- The characters that the bytes encode, if they are wholly well formed.
def decode? (bytes : Bytes) : Option (List Char) :=
  decodeFrom none [] bytes

def replacement : Char := '\uFFFD'

-- A byte that cannot continue a character ends the ill-formed stretch before it and is read afresh.
def decodeLossyFrom (state : Option Pending) (acc : List Char) : Bytes → List Char
  | [] => (if state.isNone then acc else replacement :: acc).reverse
  | b :: rest =>
    match step state b with
    | .char c => decodeLossyFrom none (c :: acc) rest
    | .pending p => decodeLossyFrom (some p) acc rest
    | .illFormed =>
      let acc := replacement :: acc
      if state.isNone then decodeLossyFrom none acc rest
      else
        match start b with
        | .char c => decodeLossyFrom none (c :: acc) rest
        | .pending p => decodeLossyFrom (some p) acc rest
        | .illFormed => decodeLossyFrom none (replacement :: acc) rest

-- The characters that the bytes encode, each ill-formed stretch read as U+FFFD.
def decodeLossy (bytes : Bytes) : List Char :=
  decodeLossyFrom none [] bytes

def encodeString (s : String) : Bytes :=
  encode s.toList

def decodeString? (bytes : Bytes) : Option String :=
  (decode? bytes).map String.ofList

def decodeStringLossy (bytes : Bytes) : String :=
  String.ofList (decodeLossy bytes)

def length (s : String) : Nat :=
  s.utf8ByteSize

example : decode? [0xE2, 0x82, 0xAC] = some ['€'] := by decide
example : decode? [0xED, 0xA0, 0x80] = none := by decide
example : decodeLossy [0x61, 0xE2, 0x82, 0x61, 0xFF] = ['a', replacement, 'a', replacement] := by
  decide

end Utf8
end AccessControl
