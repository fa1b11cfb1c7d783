import AccessControl.Number.Binary64

namespace AccessControl

-- The number `digits * 10 ^ exponent`.
structure Decimal where
  digits : Nat
  exponent : Int
deriving DecidableEq, Repr

namespace Decimal

-- A positive number with the stretch of numbers that round to it: all as numerators over the one
-- denominator `scale`.
structure Interval where
  low : Nat
  value : Nat
  high : Nat
  scale : Nat
  -- Whether the ends belong to the stretch.
  closed : Bool

-- The stretch reaches half way to the neighbours; below a power of two the lower one is nearer.
def Interval.of (x : Fin Binary64.infinityBits) : Interval :=
  let m := Binary64.significand x
  let e := Binary64.exponent x
  let below := if m = Nat.pow 2 52 ∧ 0 < e then 1 else 2
  let factor := if 1076 ≤ e then Nat.pow 2 (e - 1076) else 1
  { low := (4 * m - below) * factor
    value := 4 * m * factor
    high := (4 * m + 2) * factor
    scale := if 1076 ≤ e then 1 else Nat.pow 2 (1076 - e)
    closed := m % 2 = 0 }

-- Whether `n * 10 ^ p` lies in the stretch.
def Interval.holds (i : Interval) (n : Nat) (p : Int) : Bool :=
  let num := n * Nat.pow 10 p.toNat * i.scale
  let den := Nat.pow 10 (-p).toNat
  if i.closed then i.low * den ≤ num && num ≤ i.high * den
  else i.low * den < num && num < i.high * den

-- The greatest `k` at most `start` with `10 ^ k` not above the number; `fuel` steps at most.
def Interval.magnitude (i : Interval) (start : Int) : Nat → Int
  | 0 => start
  | fuel + 1 =>
    if Nat.pow 10 start.toNat * i.scale ≤ i.value * Nat.pow 10 (-start).toNat then start
    else i.magnitude (start - 1) fuel

-- The neighbour on the grid of `10 ^ p` that lies in the stretch, the nearer one of two, the even
-- one at a tie.
def Interval.neighbour? (i : Interval) (p : Int) : Option Nat :=
  let num := i.value * Nat.pow 10 (-p).toNat
  let den := i.scale * Nat.pow 10 p.toNat
  let q := num / den
  let nearest := Binary64.roundQuotient num den
  let other := if nearest = q then q + 1 else q
  if nearest ≠ 0 && i.holds nearest p then some nearest
  else if other ≠ 0 && i.holds other p then some other
  else none

-- Tries grids of `count` digits and more, `fuel` of them. The first grid on which a neighbour of the
-- number rounds to it wins.
def Interval.shortest (i : Interval) (k : Int) (count : Nat) : Nat → Decimal
  | 0 => ⟨i.value / i.scale, 0⟩
  | fuel + 1 =>
    let p := k - count + 1
    match i.neighbour? p with
    | some n => ⟨n, p⟩
    | none => i.shortest k (count + 1) fuel

-- Moves the zeros at the end into the exponent; `fuel` of them at most.
def trimZeros (d : Decimal) : Nat → Decimal
  | 0 => d
  | fuel + 1 =>
    if d.digits % 10 = 0 ∧ d.digits ≠ 0 then
      trimZeros ⟨d.digits / 10, d.exponent + 1⟩ fuel
    else d

-- The decimal with the fewest digits that reads back as `x`, which is positive.
def shortest (x : Fin Binary64.infinityBits) : Decimal :=
  let i := Interval.of x
  let d := i.shortest (i.magnitude 309 640) 1 17
  d.trimZeros 20

end Decimal

structure NumberLayout where
  -- The exponents of the first digit that are written without an exponent.
  positionalFrom : Int
  positionalTo : Int
  -- What marks an exponent, and the sign of one that is not negative.
  mark : Char
  plus : List Char

namespace NumberLayout

def zeros (n : Nat) : List Char :=
  List.replicate n '0'

def positive (l : NumberLayout) (d : Decimal) : List Char :=
  let ds := Nat.toDigits 10 d.digits
  let e := d.exponent + ds.length - 1
  if l.positionalFrom ≤ e ∧ e ≤ l.positionalTo then
    if 0 ≤ d.exponent then ds ++ zeros d.exponent.toNat ++ ['.', '0']
    else if 0 ≤ e then
      ds.take (e.toNat + 1) ++ '.' :: ds.drop (e.toNat + 1)
    else ['0', '.'] ++ zeros (-e - 1).toNat ++ ds
  else
    let significand := match ds with
      | [d] => [d]
      | d :: rest => d :: '.' :: rest
      | [] => []
    let sign := if e < 0 then ['-'] else l.plus
    significand ++ l.mark :: sign ++ Nat.toDigits 10 e.natAbs

def text (l : NumberLayout) (x : Binary64) : List Char :=
  let digits := if x.magnitude.val = 0 then ['0', '.', '0'] else l.positive (.shortest x.magnitude)
  if x.negative then '-' :: digits else digits

end NumberLayout

example : Decimal.shortest ⟨0x3FB999999999999A, by decide⟩ = ⟨1, -1⟩ := by decide +kernel
example : Decimal.shortest ⟨1, by decide⟩ = ⟨5, -324⟩ := by decide +kernel

end AccessControl
