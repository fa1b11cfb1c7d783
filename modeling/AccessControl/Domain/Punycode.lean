namespace AccessControl.Domain.Punycode

def base : Nat := 36

-- Numbers stay below this.
def limit : Nat := UInt32.size

-- The longest text that is read, and the longest that is written.
def maxRead : Nat := 2000

def maxWritten : Nat := 1000

def digitValue? (c : Char) : Option Nat :=
  if 'a' ≤ c ∧ c ≤ 'z' then some (c.toNat - 'a'.toNat)
  else if 'A' ≤ c ∧ c ≤ 'Z' then some (c.toNat - 'A'.toNat)
  else if '0' ≤ c ∧ c ≤ '9' then some (c.toNat - '0'.toNat + 26)
  else none

def digit (value : Nat) : Char :=
  Char.ofNat (if value < 26 then 'a'.toNat + value else '0'.toNat + (value - 26))

-- The threshold of the digit at a place; the first place is `base`, and each further on by as much.
def threshold (bias place : Nat) : Nat :=
  min 26 (max 1 (place - bias))

theorem threshold_pos {bias place : Nat} : 0 < threshold bias place := by
  unfold threshold; omega

theorem threshold_lt_base {bias place : Nat} : threshold bias place < base := by
  unfold threshold base; omega

def settle (bias step : Nat) : Nat :=
  if 455 < step then settle (bias + base) (step / 35) else bias + 36 * step / (step + 38)
termination_by step
decreasing_by omega

-- The bias after a number, which has put a character into a text, the first or a later one, that is of
-- the given length now.
def adapt (isFirst : Bool) (length number : Nat) : Nat :=
  let step := number / (if isFirst then 700 else 2)
  settle 0 (step + step / length)

def initialBias : Nat := 72

-- Adds a number, read from the place on, to `sum`, and gives what follows it.
def readNumber? (bias place weight sum : Nat) : List Char → Option (Nat × List Char)
  | [] => none
  | c :: cs => do
    let value ← digitValue? c
    let sum := sum + value * weight
    let t := threshold bias place
    if limit ≤ sum then none
    else if value < t then some (sum, cs)
    else if limit ≤ weight * (base - t) then none
    else readNumber? bias (place + base) (weight * (base - t)) sum cs

def charOf? (code : Nat) : Option Char :=
  if code.isValidChar then some (Char.ofNat code) else none

-- Reads what comes after the ASCII characters. The last character read has the code point `code`, and
-- `place` is behind it; each number takes up digits, so that there are no more of them than `fuel`.
def readFrom (code place bias : Nat) (text : List Char) :
    (fuel : Nat) → List Char → Option (List Char)
  | _, [] => some text
  | 0, _ :: _ => none
  | fuel + 1, c :: cs => do
    let (sum, rest) ← readNumber? bias base 1 place (c :: cs)
    let length := text.length + 1
    let code := code + sum / length
    let new ← charOf? code
    readFrom code (sum % length + 1) (adapt (place == 0) length (sum - place))
      (text.insertIdx (sum % length) new) fuel rest

-- The ASCII characters and the digits after them. A hyphen with nothing before it is no digit.
def splitDigits (cs : List Char) : List Char × List Char :=
  let digits := (cs.reverse.takeWhile (· != '-')).reverse
  let plain := (cs.take (cs.length - digits.length)).dropLast
  if plain.isEmpty then ([], cs) else (plain, digits)

def read? (cs : List Char) : Option (List Char) :=
  let (plain, digits) := splitDigits cs
  if maxRead < cs.length || plain.any (0x80 ≤ ·.toNat) then none
  else readFrom 0x80 0 initialBias plain digits.length digits

-- The digits of a number, from a place on.
def digits (bias place number : Nat) : List Char :=
  let t := threshold bias place
  if number < t then [digit number]
  else
    digit (t + (number - t) % (base - t)) :: digits bias (place + base) ((number - t) / (base - t))
termination_by number
decreasing_by
  have := @threshold_pos bias place
  exact Nat.lt_of_le_of_lt (Nat.div_le_self _ _) (by omega)

structure Writing where
  -- The digits so far, number by number in reverse.
  done : List (List Char)
  count : Nat
  steps : Nat
  bias : Nat

-- Passes the character `c` while those with the code point `code` are being written.
def Writing.pass (plain code : Nat) (w : Writing) (c : Char) : Writing :=
  if c.toNat < code then { w with steps := w.steps + 1 }
  else if c.toNat = code then
    { done := digits w.bias base w.steps :: w.done
      count := w.count + 1
      steps := 0
      bias := adapt (w.count == plain) (w.count + 1) w.steps }
  else w

-- Writes the characters with the given code points, which are in ascending order; `next` is the least
-- one that may come.
def writeFrom (text : List Char) (plain next : Nat) (w : Writing) : List Nat → Writing
  | [] => w
  | code :: codes =>
    let w := { w with steps := w.steps + (code - next) * (w.count + 1) }
    let w := text.foldl (Writing.pass plain code) w
    writeFrom text plain (code + 1) { w with steps := w.steps + 1 } codes

def write (text : List Char) : List Char :=
  let plain := text.filter (·.toNat < 0x80)
  let codes := ((text.map Char.toNat).filter (0x80 ≤ ·)).eraseDups.mergeSort
  let w := writeFrom text plain.length 0x80 ⟨[], plain.length, 0, initialBias⟩ codes
  plain ++ (if plain.isEmpty then [] else ['-']) ++ w.done.reverse.flatten

def write? (text : List Char) : Option (List Char) :=
  if maxWritten < text.length then none else some (write text)

example : digitValue? '9' = some 35 := by decide
example : splitDigits "a-b-c".toList = ("a-b".toList, ['c']) := by decide +kernel

end AccessControl.Domain.Punycode
