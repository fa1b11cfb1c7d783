import AccessControl.Http.Chunked
import AccessControl.Text.Blank
import AccessControl.Text.Decimal
import AccessControl.Text.Split

namespace AccessControl.Http

-- The bytes that came over a connection, which was closed then or left open.
structure Received where
  bytes : Bytes
  stillOpen : Bool := false
deriving DecidableEq, Repr, Inhabited

structure Response where
  status : Nat
  -- The length of the body, if it is known in advance.
  declared : Option Nat
  body : Bytes
  ending : Ending
deriving DecidableEq, Repr, Inhabited

inductive Delivery
  | refused
  -- The connection ended without a response.
  | failed
  | timedOut
  | response (r : Response)
deriving DecidableEq, Repr, Inhabited

inductive BodyError
  | tooLarge
  | broken
  | timedOut
deriving DecidableEq, Repr, Inhabited

namespace Response

-- Whether the body is known in advance to exceed the limit.
def isOverlong (limit : Nat) (r : Response) : Bool :=
  r.declared.any (limit < ·)

-- Takes the body, but no more than one byte beyond the limit, which tells that there is more.
def take (limit : Nat) (r : Response) : Except BodyError Bytes :=
  let taken := r.body.take (limit + 1)
  if limit < taken.length then .error .tooLarge
  else
    match r.ending with
    | .complete => .ok taken
    | .broken => .error .broken
    | .silent => .error .timedOut

-- What was declared and what has come must both keep to the limit. An overlong body is refused as such
-- even if it was cut off later.
def read (limit : Nat) (r : Response) : Except BodyError Bytes :=
  if r.isOverlong limit then .error .tooLarge else r.take limit

end Response

-- How a body ends: after a declared length, with the last chunk, or with the connection.
inductive Framing
  | length (n : Nat)
  | chunked
  | untilClosed
deriving DecidableEq, Repr, Inhabited

namespace Head

def plainText? (value : Bytes) : Option (List Char) :=
  if value.all fun b => b == 0x09 || (0x20 ≤ b && b ≤ 0x7E) then Utf8.decode? value else none

def commaParts (cs : List Char) : List (List Char) :=
  (Text.splitAt (· == ',') cs).map Text.trimChars

-- Lengths are numbers of 64 bits, the last two of which are taken.
def maxLength : Nat := UInt64.size - 3

def readLength? (digits : List Char) : Option Nat :=
  (Text.readDigits? digits).filter (· ≤ maxLength)

def agreedLength? (values : List Bytes) : Option Nat := do
  let texts ← values.mapM plainText?
  let lengths ← (texts.flatMap commaParts).mapM readLength?
  let n ← lengths.head?
  if lengths.all (· = n) then some n else none

-- Whether the last coding applied is the one that sends chunks.
def endsInChunks (values : List Bytes) : Bool :=
  match values.getLast?.bind plainText? with
  | some cs => String.ofList (Text.lowerAscii ((commaParts cs).getLastD [])) = "chunked"
  | none => false

-- The framing of the body, unless the head contradicts itself.
def framing? (h : Head) : Option Framing :=
  let codings := h.values "transfer-encoding"
  let lengths := h.values "content-length"
  if h.status = 101 || h.status = 204 || h.status = 304 then some (.length 0)
  else if !codings.isEmpty then
    if h.version = .http10 then none
    else if endsInChunks codings then some .chunked
    else some .untilClosed
  else if lengths.isEmpty then some .untilClosed
  else (agreedLength? lengths).map .length

-- Whether another head follows this one instead of a body.
def isInterim (h : Head) : Bool :=
  h.status < 200 && h.status ≠ 101

end Head

namespace Response

-- The response with the given head, of whose body and what comes after it `bytes` have come.
def ofFraming (h : Head) (bytes : Bytes) (open_ : Bool) : Framing → Response
  | .length n =>
    let body := bytes.take n
    ⟨h.status, some n, body, if body.length = n then .complete else .ofShortage open_⟩
  | .chunked =>
    let (body, ending) := Chunked.read open_ bytes
    ⟨h.status, none, body, ending⟩
  | .untilClosed => ⟨h.status, none, bytes, if open_ then .silent else .complete⟩

end Response

namespace Delivery

-- Reads heads until one that is final; each takes up bytes.
def readFrom (open_ : Bool) : (fuel : Nat) → Bytes → Delivery
  | 0, _ => .failed
  | fuel + 1, bytes =>
    match Head.scan bytes with
    | .malformed => .failed
    | .more => if open_ then .timedOut else .failed
    | .done h rest =>
      if h.isInterim then readFrom open_ fuel rest
      else
        match h.framing? with
        | some framing => .response (.ofFraming h rest open_ framing)
        | none => .failed

def ofReceived (r : Received) : Delivery :=
  readFrom r.stillOpen (r.bytes.length + 1) r.bytes

end Delivery
end AccessControl.Http
