namespace AccessControl.Text

def digitValue? (c : Char) : Option Nat :=
  if '0' ≤ c ∧ c ≤ '9' then some (c.toNat - 0x30) else none

-- Reads on from the number `n` of the digits so far; anything but a digit refuses the text.
def readDigitsFrom (n : Nat) : List Char → Option Nat
  | [] => some n
  | c :: cs => (digitValue? c).bind fun d => readDigitsFrom (n * 10 + d) cs

-- One or more ASCII digits and nothing else.
def readDigits? : List Char → Option Nat
  | [] => none
  | cs => readDigitsFrom 0 cs

-- A numeral, with a plus sign or without, for a number below `limit`.
def readNatural? (limit : Nat) (cs : List Char) : Option Nat :=
  let digits := match cs with
    | '+' :: ds => ds
    | ds => ds
  (readDigits? digits).filter (· < limit)

-- A numeral with an optional sign, for an integer that 64 bits hold.
def readInteger? (cs : List Char) : Option Int :=
  match cs with
  | '-' :: ds => ((readDigits? ds).filter (· ≤ Nat.pow 2 63)).map fun n => -(n : Int)
  | _ => (readNatural? (Nat.pow 2 63) cs).map fun n => (n : Int)

example : readNatural? UInt32.size "+007".toList = some 7 := by decide +kernel
example : readNatural? UInt32.size "4294967296".toList = none := by decide +kernel

end AccessControl.Text
