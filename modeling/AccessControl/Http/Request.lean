import AccessControl.Text.Blank
import AccessControl.Text.Utf8

namespace AccessControl.Http

-- Header names are in lower case, in alphabetical order, each once.
structure Request where
  method : String
  target : String
  headers : List (String × String)
  body : String
deriving DecidableEq, Repr, Inhabited

-- The request as it is read at the other end: blanks around the values of headers are lost.
def Request.received (r : Request) : Request :=
  { r with headers := r.headers.map fun (name, value) => (name, Text.trim value) }

def Request.bytes (r : Request) : Bytes :=
  let fields := r.headers.map fun (name, value) => name ++ ": " ++ value ++ "\r\n"
  Utf8.encodeString
    (r.method ++ " " ++ r.target ++ " HTTP/1.1\r\n" ++ String.join fields ++ "\r\n" ++ r.body)

inductive Arrival
  | request (r : Request)
  | tlsGreeting
deriving DecidableEq, Repr, Inhabited

-- Whether a character may stand in a header: all but control characters, the tab being allowed.
def isHeaderChar (c : Char) : Bool :=
  c == '\t' || (0x20 ≤ c.toNat && c.toNat != 0x7F)

def isHeaderText (s : String) : Bool :=
  s.toList.all isHeaderChar

end AccessControl.Http
