namespace AccessControl

namespace Binary64

-- The first bit pattern, sign apart, that stands for no finite number.
def infinityBits : Nat := 0x7FF * Nat.pow 2 52

end Binary64

-- A finite number: its sign, and the bit pattern of its magnitude.
structure Binary64 where
  negative : Bool
  magnitude : Fin Binary64.infinityBits
deriving DecidableEq, Repr

namespace Binary64

def zero : Fin infinityBits := ⟨0, by decide⟩

-- The magnitude as `significand * 2 ^ (exponent - 1074)`.
def significand (x : Fin infinityBits) : Nat :=
  if x.val / Nat.pow 2 52 = 0 then x.val else x.val % Nat.pow 2 52 + Nat.pow 2 52

def exponent (x : Fin infinityBits) : Nat :=
  x.val / Nat.pow 2 52 - 1

def numerator (x : Fin infinityBits) : Nat :=
  if 1074 ≤ exponent x then significand x * Nat.pow 2 (exponent x - 1074) else significand x

def denominator (x : Fin infinityBits) : Nat :=
  if 1074 ≤ exponent x then 1 else Nat.pow 2 (1074 - exponent x)

-- The natural nearest to a quotient, the even one if two are.
def roundQuotient (num den : Nat) : Nat :=
  let q := num / den
  let twice := 2 * (num % den)
  if twice < den then q
  else if den < twice then q + 1
  else q + q % 2

-- The least exponent of those above whose significand takes at most 53 bits.
def roundingExponent (num den : Nat) : Nat :=
  let e := (num.log2 + 1074) - den.log2 - 53
  if num * Nat.pow 2 1074 / den / Nat.pow 2 e < Nat.pow 2 53 then e else e + 1

-- The magnitude nearest to `num / den`, unless that is beyond the finite ones.
def round (num den : Nat) : Option (Fin infinityBits) :=
  let e := roundingExponent num den
  let m := roundQuotient (num * Nat.pow 2 1074) (den * Nat.pow 2 e)
  let bits := if m < Nat.pow 2 52 then m else e * Nat.pow 2 52 + m
  if h : bits < infinityBits then some ⟨bits, h⟩ else none

-- Products and quotients are exact, and rounded once.
def mul (x y : Fin infinityBits) : Option (Fin infinityBits) :=
  round (numerator x * numerator y) (denominator x * denominator y)

def div (x y : Fin infinityBits) : Option (Fin infinityBits) :=
  round (numerator x * denominator y) (denominator x * numerator y)

def ofNat (n : Nat) : Option (Fin infinityBits) :=
  round n 1

example : ofNat 1 = some ⟨0x3FF0000000000000, by decide⟩ := by decide +kernel
example : round 1 10 = some ⟨0x3FB999999999999A, by decide⟩ := by decide +kernel
example : round 1 (2 ^ 1074) = some ⟨1, by decide⟩ := by decide +kernel

end Binary64
end AccessControl
