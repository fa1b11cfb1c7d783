namespace AccessControl.Text

def hexValue? (code : Nat) : Option Nat :=
  if 0x30 ≤ code && code ≤ 0x39 then some (code - 0x30)
  else if 0x41 ≤ code && code ≤ 0x46 then some (code - 0x41 + 10)
  else if 0x61 ≤ code && code ≤ 0x66 then some (code - 0x61 + 10)
  else none

def hexDigit? (c : Char) : Option Nat :=
  hexValue? c.toNat

def hexByte? (b : UInt8) : Option Nat :=
  hexValue? b.toNat

def hexDigit (value : Nat) : Char :=
  if value < 10 then Char.ofNat (0x30 + value) else Char.ofNat (0x57 + value)

theorem hexValue?_lt {code n : Nat} (h : hexValue? code = some n) : n < 16 := by
  simp only [hexValue?, Bool.and_eq_true, decide_eq_true_eq] at h
  split at h
  · injection h; omega
  · split at h
    · injection h; omega
    · split at h
      · injection h; omega
      · contradiction

theorem hexDigit?_hexDigit {value : Nat} (h : value < 16) : hexDigit? (hexDigit value) = some value := by
  have all : ∀ n < 16, hexDigit? (hexDigit n) = some n := by decide
  exact all value h

end AccessControl.Text
