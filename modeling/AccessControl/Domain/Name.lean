import AccessControl.Domain.Direction
import AccessControl.Domain.Joining
import AccessControl.Domain.Mapping
import AccessControl.Domain.Punycode
import AccessControl.Text.Blank
import AccessControl.Text.Composition

namespace AccessControl.Domain

-- A part of a name between dots, as people read it and as it is asked for.
structure Label where
  shown : List Char
  asked : List Char
deriving DecidableEq, Repr

def isAscii (cs : List Char) : Bool :=
  cs.all (·.toNat < 0x80)

-- What a label written in Punycode begins with.
def mark : List Char := "xn--".toList

namespace Label

-- Whether a label past ASCII makes sense by itself.
def isSound (cs : List Char) : Bool :=
  !cs.head?.any Text.isMark && joinsWell [] cs

-- Whether every character stands for itself, and the text is composed.
def isCanonical (cs : List Char) : Bool :=
  cs.all (fun c => standsFor? c = some [c]) && Text.composed cs = cs

-- Reads a label whose characters stand for themselves.
def read? (cs : List Char) : Option Label :=
  if mark.isPrefixOf cs then do
    let shown ← Punycode.read? (cs.drop mark.length)
    if !isAscii shown && isCanonical shown && isSound shown then some ⟨shown, cs⟩ else none
  else if isAscii cs then some ⟨cs, cs⟩
  else if isSound cs then (Punycode.write? cs).map fun written => ⟨cs, mark ++ written⟩
  else none

end Label

-- Characters that no name of a host may have.
def isForbidden (c : Char) : Bool :=
  c.toNat ≤ 0x20 || c.toNat == 0x7F || "#%/:<>?@[\\]^|".toList.contains c

-- The name as it is asked for, if it is one.
def read? (cs : List Char) : Option (List Char) := do
  let cs := Text.composed (← cs.mapM standsFor?).flatten
  if cs.any isForbidden then none
  let labels ← (Text.splitAt (· == '.') cs).mapM Label.read?
  if labels.any (isReversed ·.shown) && !labels.all (keepsDirection ·.shown) then none
  return ['.'].intercalate (labels.map (·.asked))

example : read? "A.b_".toList = some "a.b_".toList := by decide +kernel
example : read? "a b".toList = none := by decide +kernel
example : read? "xn--".toList = none := by decide +kernel

end AccessControl.Domain
