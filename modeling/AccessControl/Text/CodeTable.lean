import AccessControl.Text.Hex

namespace AccessControl.Text

structure Stretch (α : Type) where
  first : Nat
  last : Nat
  value : α
deriving DecidableEq, Repr

-- Stretches in ascending order, none of which overlap.
abbrev CodeTable (α : Type) := Array (Stretch α)

namespace CodeTable

def words (text : String) : List (List Char) :=
  (((text.splitOn "\n").flatMap (·.splitOn " ")).map String.toList).filter (!·.isEmpty)

-- Reads on from the number `n`, as many digits as there are, and gives what follows them.
def readNumberFrom (n : Nat) : List Char → Nat × List Char
  | [] => (n, [])
  | c :: cs =>
    match hexDigit? c with
    | some d => readNumberFrom (n * 16 + d) cs
    | none => (n, c :: cs)

def readNumber (cs : List Char) : Nat × List Char :=
  readNumberFrom 0 cs

def readEnds (cs : List Char) : Nat × Nat × List Char :=
  match readNumber cs with
  | (first, '-' :: cs) => (first, readNumber cs)
  | (first, cs) => (first, first, cs)

-- The table of some values, each with the stretches that have it: words between blanks, `300-36F`, or
-- `5BF` for just one code point.
def ofValues (values : List (α × String)) : CodeTable α :=
  let stretches := values.flatMap fun (value, text) =>
    (words text).map fun word =>
      let (first, last, _) := readEnds word
      ⟨first, last, value⟩
  (stretches.mergeSort fun a b => a.first ≤ b.first).toArray

-- Looks for the stretch around `code` among those at places from `low` up to `high`; every step halves
-- the places, so that `fuel` need not be more than their number.
def findBetween (t : CodeTable α) (code : Nat) : (fuel low high : Nat) → Option (Stretch α)
  | 0, _, _ => none
  | fuel + 1, low, high =>
    let middle := (low + high) / 2
    if low < high then
      match t[middle]? with
      | none => none
      | some s =>
        if code < s.first then t.findBetween code fuel low middle
        else if s.last < code then t.findBetween code fuel (middle + 1) high
        else some s
    else none

def find? (t : CodeTable α) (c : Char) : Option (Stretch α) :=
  t.findBetween c.toNat t.size 0 t.size

def value? (t : CodeTable α) (c : Char) : Option α :=
  (t.find? c).map (·.value)

theorem findBetween_covers {t : CodeTable α} {code fuel low high : Nat} {s : Stretch α}
    (h : t.findBetween code fuel low high = some s) : s.first ≤ code ∧ code ≤ s.last := by
  induction fuel generalizing low high with
  | zero => simp [findBetween] at h
  | succ fuel ih =>
    simp only [findBetween] at h
    split at h
    · split at h
      · contradiction
      · split at h
        · exact ih h
        · split at h
          · exact ih h
          · injection h; subst s; omega
    · contradiction

theorem find?_covers {t : CodeTable α} {c : Char} {s : Stretch α} (h : t.find? c = some s) :
    s.first ≤ c.toNat ∧ c.toNat ≤ s.last :=
  findBetween_covers h

end CodeTable
end AccessControl.Text
