namespace AccessControl

structure RequestId where
  text : String
deriving DecidableEq, Repr, Inhabited

namespace RequestId

def header : String := "x-request-id"

def hexDigits (digits : Nat) (n : Nat) : List Char :=
  (List.range digits).reverse.map fun i => Nat.digitChar (n / Nat.pow 16 i % 16)

-- The five groups of an identifier: the version number four stands at the front of the third, and the
-- variant at the front of the fourth.
def groups (n : Nat) : List (List Char) :=
  [hexDigits 8 (n % Nat.pow 2 32),
    hexDigits 4 (n / Nat.pow 2 32 % Nat.pow 2 16),
    hexDigits 4 (0x4000 + n / Nat.pow 2 48 % Nat.pow 2 12),
    hexDigits 4 (0x8000 + n / Nat.pow 2 60 % Nat.pow 2 14),
    hexDigits 12 (n / Nat.pow 2 74 % Nat.pow 2 48)]

def ofRandom (bits : BitVec 122) : RequestId :=
  ⟨String.ofList (['-'].intercalate (groups bits.toNat))⟩

example : (ofRandom 0).text = "00000000-0000-4000-8000-000000000000" := by decide +kernel

end RequestId

-- What sets one call apart from every other. The identifier goes out with every request of the call and
-- into every record and answer of it. The time is that of its first moment, in milliseconds since the
-- epoch: a program with a clock stamps each record and decision when it is made, but here all that a call
-- leaves behind bears the time at which it began.
structure Call where
  requestId : RequestId
  time : Nat
deriving DecidableEq, Repr, Inhabited

end AccessControl
