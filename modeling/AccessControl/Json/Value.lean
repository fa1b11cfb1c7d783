import AccessControl.Number.Shortest

namespace AccessControl
namespace Json

-- A number: an integer that 64 bits hold, with or without sign, or a floating-point number.
inductive Number
  | integer (i : Int)
  | float (x : Binary64)
deriving DecidableEq, Repr

end Json

-- An object keeps its members in the order of their keys, each key once.
inductive Json
  | null
  | bool (b : Bool)
  | number (n : Json.Number)
  | string (s : String)
  | array (items : List Json)
  | object (members : List (String × Json))
deriving Repr, Inhabited

namespace Json

def nat (n : Nat) : Json := .number (.integer n)

def int (i : Int) : Json := .number (.integer i)

def ofOption : Option String → Json
  | some s => .string s
  | none => .null

-- Puts a member at its place in members sorted by key, unless its key has a value there.
def insertNew (key : String) (value : α) : List (String × α) → List (String × α)
  | [] => [(key, value)]
  | (k, v) :: ms =>
    if key < k then (key, value) :: (k, v) :: ms
    else if key = k then (k, v) :: ms
    else (k, v) :: insertNew key value ms

-- Members sorted by key, each key with the last value given for it.
def sortMembers : List (String × α) → List (String × α)
  | [] => []
  | (k, v) :: ms => insertNew k v (sortMembers ms)

def ofMembers (ms : List (String × Json)) : Json :=
  .object (sortMembers ms)

def get? (key : String) : Json → Option Json
  | .object ms => ms.lookup key
  | _ => none

end Json
end AccessControl
