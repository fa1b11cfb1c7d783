import AccessControl.Text.Utf8

namespace AccessControl.Http

-- A step over bytes of which more may come: it finishes with a value and the rest, needs more than there
-- is, or finds bytes that no continuation can mend.
inductive Scan (α : Type)
  | done (value : α) (rest : Bytes)
  | more
  | malformed
deriving Repr, Inhabited

namespace Scan

def bind (s : Scan α) (k : α → Bytes → Scan β) : Scan β :=
  match s with
  | .done a rest => k a rest
  | .more => .more
  | .malformed => .malformed

def map (f : α → β) (s : Scan α) : Scan β :=
  s.bind fun a rest => .done (f a) rest

def exactly : (expected bytes : Bytes) → Scan Unit
  | [], rest => .done () rest
  | _ :: _, [] => .more
  | e :: es, b :: rest => if e = b then exactly es rest else .malformed

-- The bytes as long as the test holds; what comes after them must be there.
def while_ (test : UInt8 → Bool) (acc : Bytes) : Bytes → Scan Bytes
  | [] => .more
  | b :: rest => if test b then while_ test (b :: acc) rest else .done acc.reverse (b :: rest)

-- The end of a line, a line feed with a carriage return before it or without.
def lineEnd : Bytes → Scan Unit
  | 0x0D :: rest => exactly [0x0A] rest
  | 0x0A :: rest => .done () rest
  | [] => .more
  | _ :: _ => .malformed

end Scan
end AccessControl.Http
