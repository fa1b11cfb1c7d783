import AccessControl.Domain.Name
import AccessControl.Text.Hex
import AccessControl.Text.Percent
import AccessControl.Text.Split

namespace AccessControl.Http

inductive Host
  | ipv4 (address : Nat)
  -- Eight numbers of 16 bits.
  | ipv6 (pieces : List Nat)
  -- As it is asked for, in ASCII.
  | name (text : String)
deriving DecidableEq, Repr, Inhabited

namespace Host

def loopback : Host := .ipv4 0x7F000001

def readNumber? (base : Nat) (digits : List Char) : Option Nat :=
  digits.foldlM (fun n c => ((Text.hexDigit? c).filter (· < base)).map (n * base + ·)) 0

-- A number of an address: `0x` makes it hexadecimal, a leading zero octal.
def readIpv4Number? : List Char → Option Nat
  | [] => none
  | '0' :: 'x' :: digits => readNumber? 16 digits
  | '0' :: 'X' :: digits => readNumber? 16 digits
  | '0' :: c :: digits => readNumber? 8 (c :: digits)
  | digits => readNumber? 10 digits

-- The labels of a name; one empty label at the end does not count.
def labels (cs : List Char) : List (List Char) :=
  let parts := Text.splitAt (· == '.') cs
  if 1 < parts.length && (parts.getLastD []).isEmpty then parts.dropLast else parts

def endsInNumber (cs : List Char) : Bool :=
  let last := (labels cs).getLastD []
  !last.isEmpty && (last.all Char.isDigit || (readIpv4Number? last).isSome)

-- An address may have fewer than four numbers, the last of which then fills the remaining bytes.
def readIpv4? (cs : List Char) : Option Nat := do
  let parts := labels cs
  if 4 < parts.length then none
  let numbers ← parts.mapM readIpv4Number?
  let first := numbers.dropLast
  let last ← numbers.getLast?
  if first.any (255 < ·) || Nat.pow 256 (4 - first.length) ≤ last then none
  return first.zipIdx.foldl (fun address (n, i) => address + n * Nat.pow 256 (3 - i)) last

def readPiece? (group : List Char) : Option Nat :=
  if group.isEmpty || 4 < group.length then none else readNumber? 16 group

-- The groups on one side of the gap of an IPv6 address.
def readPieces? (cs : List Char) : Option (List Nat) :=
  if cs.isEmpty then some [] else (Text.splitAt (· == ':') cs).mapM readPiece?

-- The groups of one side; an IPv4 address at the end stands for two.
def readGroups? (cs : List Char) : Option (List Nat) :=
  let groups := Text.splitAt (· == ':') cs
  let last := groups.getLastD []
  if last.contains '.' then do
    let numbers ← (Text.splitAt (· == '.') last).mapM fun part =>
      if part.isEmpty || (1 < part.length && part.head? = some '0') then none
      else (readNumber? 10 part).filter (· < 256)
    let [a, b, c, d] := numbers | none
    let before ← groups.dropLast.mapM readPiece?
    return before ++ [a * 256 + b, c * 256 + d]
  else readPieces? cs

-- What stands before the first `::` and after it.
def splitGap : List Char → Option (List Char × List Char)
  | ':' :: ':' :: rest => some ([], rest)
  | c :: rest => (splitGap rest).map fun (before, after) => (c :: before, after)
  | [] => none

def readIpv6? (cs : List Char) : Option (List Nat) :=
  match splitGap cs with
  | none => (readGroups? cs).filter (·.length = 8)
  | some (before, after) => do
    let head ← readPieces? before
    let tail ← readGroups? after
    if 8 ≤ head.length + tail.length then none
    return head ++ List.replicate (8 - head.length - tail.length) 0 ++ tail

def read? (cs : List Char) : Option Host :=
  if cs.head? = some '[' then
    if cs.getLast? = some ']' then (readIpv6? (cs.drop 1).dropLast).map .ipv6 else none
  else do
    let name ← Domain.read? (← Utf8.decode? (Percent.decodeText cs))
    if name.isEmpty then none
    if endsInNumber name then (readIpv4? name).map .ipv4 else some (.name (String.ofList name))

-- Whether a request can name the host: some characters that a name may have are none of a request.
def canBeAsked : Host → Bool
  | .name s => !s.toList.any "\"`\x7b\x7d".toList.contains
  | _ => true

-- The start and the length of the longest run of at least two zeros, the first of several.
def longestZeros (pieces : List Nat) : Option (Nat × Nat) :=
  let runs := (List.range pieces.length).map fun i =>
    (i, ((pieces.drop i).takeWhile (· == 0)).length)
  runs.foldl (fun best run => if 2 ≤ run.2 && best.all (·.2 < run.2) then some run else best) none

def piecesText (pieces : List Nat) : String :=
  ":".intercalate (pieces.map fun n => String.ofList (Nat.toDigits 16 n))

def text : Host → String
  | .ipv4 n =>
    ".".intercalate ([n / 0x1000000, n / 0x10000 % 256, n / 256 % 256, n % 256].map toString)
  | .ipv6 pieces =>
    match longestZeros pieces with
    | some (i, n) =>
      "[" ++ piecesText (pieces.take i) ++ "::" ++ piecesText (pieces.drop (i + n)) ++ "]"
    | none => "[" ++ piecesText pieces ++ "]"
  | .name s => s

example : read? "127.1".toList = some loopback := by decide +kernel
example : read? "acme.127.0.0.1".toList = none := by decide +kernel
example : read? ".127.0.0.1".toList = none := by decide +kernel
example : (read? "[1:0:0:2::]".toList).map text = some "[1:0:0:2::]" := by decide +kernel

end Host
end AccessControl.Http
