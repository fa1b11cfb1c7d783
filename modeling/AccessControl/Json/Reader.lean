import AccessControl.Json.Lexeme

namespace AccessControl.Json

-- How many brackets may be open at once.
def maxDepth : Nat := 127

-- What follows inside a bracket: its end, with the bytes after it, or one more entry.
inductive Next
  | stop (rest : Bytes)
  | entry (bytes : Bytes)

-- After an opening bracket or an item of a list. The bytes of an entry start at its value. This step and
-- the next two stand alone, since settings are read by the same steps with items of other types.
def nextItem (first : Bool) (bytes : Bytes) : Except ReadError Next :=
  match skipBlanks bytes with
  | [] => .error .eofList
  | b :: rest =>
    if b = 0x5D then .ok (.stop rest)
    else if first then .ok (.entry (b :: rest))
    else if b = 0x2C then
      match skipBlanks rest with
      | [] => .error .eofValue
      | c :: rest => if c = 0x5D then .error .trailingComma else .ok (.entry (c :: rest))
    else .error .expectedListEnd

-- After an opening brace or a member. The bytes of an entry start inside its key.
def nextKey (first : Bool) (bytes : Bytes) : Except ReadError Next :=
  match skipBlanks bytes with
  | [] => .error .eofObject
  | b :: rest =>
    if b = 0x7D then .ok (.stop rest)
    else if first then
      if b = 0x22 then .ok (.entry rest) else .error .keyNotString
    else if b = 0x2C then
      match skipBlanks rest with
      | [] => .error .eofValue
      | c :: rest =>
        if c = 0x22 then .ok (.entry rest)
        else if c = 0x7D then .error .trailingComma
        else .error .keyNotString
    else .error .expectedObjectEnd

def readColon (bytes : Bytes) : Except ReadError Bytes :=
  match skipBlanks bytes with
  | [] => .error .eofObject
  | b :: rest => if b = 0x3A then .ok rest else .error .expectedColon

-- The items of a list up to its end; `acc` holds those so far, in reverse.
def readItems (item : Bytes → Read α) (first : Bool) (acc : List α) :
    (fuel : Nat) → Bytes → Read (List α)
  | 0, _ => .error .eofList
  | fuel + 1, bytes =>
    match nextItem first bytes with
    | .error e => .error e
    | .ok (.stop rest) => .ok (acc.reverse, rest)
    | .ok (.entry bytes) =>
      match item bytes with
      | .error e => .error e
      | .ok (v, rest) => readItems item false (v :: acc) fuel rest

-- One member, from inside its key on.
def readMember (item : Bytes → Read α) (bytes : Bytes) :
    Except ReadError ((String × α) × Bytes) := do
  let (key, rest) ← readString bytes
  let rest ← readColon rest
  let (value, rest) ← item rest
  return ((key, value), rest)

-- The members of an object up to its end, in the order of the text.
def readMembers (item : Bytes → Read α) (first : Bool) (acc : List (String × α)) :
    (fuel : Nat) → Bytes → Read (List (String × α))
  | 0, _ => .error .eofObject
  | fuel + 1, bytes =>
    match nextKey first bytes with
    | .error e => .error e
    | .ok (.stop rest) => .ok (acc.reverse, rest)
    | .ok (.entry bytes) =>
      match readMember item bytes with
      | .error e => .error e
      | .ok (m, rest) => readMembers item false (m :: acc) fuel rest

-- A value, inside of which brackets may nest `depth` deep. The loops over items and members run on a
-- count that no list of as many bytes can exhaust.
def readValue (fuel : Nat) (depth : Nat) (bytes : Bytes) : Read Json :=
  match skipBlanks bytes with
  | [] => .error .eofValue
  | b :: rest =>
    if b = 0x6E then (readNull rest).map (.null, ·)
    else if b = 0x74 then (readTrue rest).map (.bool true, ·)
    else if b = 0x66 then (readFalse rest).map (.bool false, ·)
    else if b = 0x22 then (readString rest).map fun (s, rest) => (.string s, rest)
    else if b = 0x2D then (readNumber true rest).map fun (n, rest) => (.number n, rest)
    else if isDigit b then (readNumber false (b :: rest)).map fun (n, rest) => (.number n, rest)
    else if b = 0x5B then
      match depth with
      | 0 => .error .recursionLimit
      | depth + 1 =>
        (readItems (readValue fuel depth) true [] fuel rest).map fun (vs, rest) => (.array vs, rest)
    else if b = 0x7B then
      match depth with
      | 0 => .error .recursionLimit
      | depth + 1 =>
        (readMembers (readValue fuel depth) true [] fuel rest).map fun (ms, rest) =>
          (ofMembers ms, rest)
    else .error .expectedValue

def readEnd (bytes : Bytes) : Except ReadError Unit :=
  if (skipBlanks bytes).isEmpty then .ok () else .error .trailingCharacters

def read (text : Bytes) : Except ReadError Json := do
  let (v, rest) ← readValue (text.length + 1) maxDepth text
  readEnd rest
  return v

end AccessControl.Json
