import AccessControl.Http.Head
import AccessControl.Text.Hex

namespace AccessControl.Http

inductive Ending
  | complete
  -- The connection was closed too early, or the framing is not as it must be.
  | broken
  -- Nothing more comes, and the connection stays open.
  | silent
deriving DecidableEq, Repr, Inhabited

-- What is left to say of a body whose bytes ran out before its end.
def Ending.ofShortage (open_ : Bool) : Ending :=
  if open_ then .silent else .broken

namespace Chunked

def lengthLimit : Nat := UInt64.size

-- The most bytes that the remarks after lengths may take, all together.
def maxRemarks : Nat := 16383

-- Reads a length on from the number `n`, which is that of the digits so far, if there are any.
def scanDigits (n : Option Nat) : Bytes → Scan Nat
  | [] => .more
  | b :: rest =>
    match Text.hexByte? b with
    | some d =>
      let n := n.getD 0 * 16 + d
      if n < lengthLimit then scanDigits (some n) rest else .malformed
    | none =>
      match n with
      | some n => .done n (b :: rest)
      | none => .malformed

-- A remark and the end of its line. Gives how many of the `room` bytes are left.
def scanRemark (room : Nat) : Bytes → Scan Nat
  | [] => .more
  | 0x0D :: rest => (Scan.exactly [0x0A] rest).map fun () => room
  | b :: rest =>
    if b = 0x0A then .malformed
    else
      match room with
      | 0 => .malformed
      | room + 1 => scanRemark room rest

-- The line that begins a chunk: a length, blanks, and a remark after a semicolon. The remark may take
-- `room` bytes, and what is left of that is given together with the length.
def scanLength (room : Nat) (bytes : Bytes) : Scan (Nat × Nat) :=
  (scanDigits none bytes).bind fun n rest =>
    (Scan.while_ isFieldBlank [] rest).bind fun _ rest =>
      match rest with
      | 0x3B :: rest => (scanRemark room rest).map fun room => (n, room)
      | rest => (Scan.exactly [0x0D, 0x0A] rest).map fun () => (n, room)

-- The most bytes of the lines after the last chunk.
def maxTrailer : Nat := 16383

-- The lines after the last chunk, with their ends, up to the empty one: `room` bytes at most. A line
-- feed alone is no end of a line here.
def scanTrailer (lineStart : Bool) (acc : Bytes) : (room : Nat) → Bytes → Scan Bytes
  | _, [] => .more
  | 0, _ => .malformed
  | room + 1, b :: rest =>
    if acc.head? = some 0x0D then
      if b ≠ 0x0A then .malformed
      else if lineStart then .done (b :: acc).reverse rest
      else scanTrailer true (b :: acc) room rest
    else scanTrailer (lineStart && b = 0x0D) (b :: acc) room rest

-- Whether lines after the last chunk are as they must be: as many fields, and no more of them than a
-- head may have.
def isTrailer (bytes : Bytes) : Bool :=
  let lines := bytes.count 0x0D - 1
  lines ≤ maxFields &&
    match Field.scanAll [] lines bytes with
    | .done _ _ => true
    | _ => false

-- Reads chunks; each takes up bytes, so that there are no more of them than `fuel`. The bytes read
-- so far are in `acc`, chunk by chunk in reverse; remarks may still take `room` bytes.
def readFrom (open_ : Bool) (acc : List Bytes) (room : Nat) : (fuel : Nat) → Bytes →
    List Bytes × Ending
  | 0, _ => (acc, .broken)
  | fuel + 1, bytes =>
    match scanLength room bytes with
    | .more => (acc, .ofShortage open_)
    | .malformed => (acc, .broken)
    | .done (0, _) rest =>
      match scanTrailer true [] maxTrailer rest with
      | .done trailer _ => (acc, if isTrailer trailer then .complete else .broken)
      | .more => (acc, .ofShortage open_)
      | .malformed => (acc, .broken)
    | .done (n, room) rest =>
      let data := rest.take n
      match Scan.exactly [0x0D, 0x0A] (rest.drop n) with
      | .done () rest => readFrom open_ (data :: acc) room fuel rest
      | .more => (data :: acc, .ofShortage open_)
      | .malformed => (data :: acc, .broken)

-- Each chunk says its length in hexadecimal on a line of its own, and an empty chunk ends the body, with
-- fields after it or without.
def read (open_ : Bool) (bytes : Bytes) : Bytes × Ending :=
  let (chunks, ending) := readFrom open_ [] maxRemarks (bytes.length + 1) bytes
  (chunks.reverse.flatten, ending)

example : read false "3\r\nabc\r\n0\r\n\r\n".toUTF8.toList = ("abc".toUTF8.toList, .complete) := by
  decide +kernel
example : read false "2;x\r\nab\r\nzz\r\n".toUTF8.toList = ("ab".toUTF8.toList, .broken) := by
  decide +kernel
example : read false "0\r\na: b\r\n\r\n".toUTF8.toList = ([], .complete) := by decide +kernel
example : read false "0\r\n\n".toUTF8.toList = ([], .broken) := by decide +kernel
example : read true "4 \r\nab".toUTF8.toList = ("ab".toUTF8.toList, .silent) := by decide +kernel

end Chunked
end AccessControl.Http
