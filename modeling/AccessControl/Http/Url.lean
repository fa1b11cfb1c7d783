import AccessControl.Config.Origin
import AccessControl.Http.Host

namespace AccessControl.Http

structure Url where
  scheme : Scheme
  -- As written in front of the host, percent-encoded; empty unless given.
  user : String
  password : String
  host : Host
  -- A port other than the scheme's own.
  port : Option Nat
  -- Starts with a slash.
  path : String
  query : Option String
  fragment : Option String
deriving DecidableEq, Repr, Inhabited

def defaultPort : Scheme → Nat
  | .http => 80
  | .https => 443

namespace Url

-- The characters that each part writes percent-encoded, besides those past ASCII.
def escapedInFragment (c : Char) : Bool :=
  c.toNat ≤ 0x20 || "\"<>`".toList.contains c

def escapedInQuery (c : Char) : Bool :=
  c.toNat ≤ 0x20 || "\"#<>'".toList.contains c

def escapedInPath (c : Char) : Bool :=
  escapedInFragment c || "#?\x7b\x7d".toList.contains c

def escapedInUser (c : Char) : Bool :=
  escapedInPath c || "/:;=@[\\]^|".toList.contains c

def isSlash (c : Char) : Bool :=
  c == '/' || c == '\\'

def endsAuthority (c : Char) : Bool :=
  isSlash c || c == '?' || c == '#'

-- Splits at the last `@`.
def splitUserInfo (cs : List Char) : List Char × List Char :=
  let host := (cs.reverse.takeWhile (· != '@')).reverse
  ((cs.take (cs.length - host.length)).dropLast, host)

-- Splits a host from its port, the colon included; a colon in brackets belongs to the host.
def splitPort (bracketed : Bool) : List Char → List Char × List Char
  | [] => ([], [])
  | c :: cs =>
    if c == ':' && !bracketed then ([], c :: cs)
    else
      let (host, port) := splitPort (c == '[' || (bracketed && c != ']')) cs
      (c :: host, port)

-- A port in decimal. None is given by an empty text, or by the default of the scheme.
def readPort? (scheme : Scheme) (digits : List Char) : Option (Option Nat) :=
  if digits.isEmpty then some none
  else
    ((Host.readNumber? 10 digits).filter (· < 0x10000)).map fun n =>
      if n = defaultPort scheme then none else some n

def isSingleDot (segment : List Char) : Bool :=
  let s := String.ofList (segment.map Char.toLower)
  s = "." || s = "%2e"

def isDoubleDot (segment : List Char) : Bool :=
  let s := String.ofList (segment.map Char.toLower)
  s = ".." || s = ".%2e" || s = "%2e." || s = "%2e%2e"

-- The name of a drive: a letter, then a colon or a bar.
def isDrive : List Char → Bool
  | [c, d] => c.isAlpha && (d == ':' || d == '|')
  | _ => false

-- The segments, in reverse, of the directory above. There is none above the root, and none above a
-- drive.
def parentSegments : List (List Char) → List (List Char)
  | [] => []
  | s :: acc => if isDrive s then s :: acc else acc

-- Resolves dots, on segments in reverse; a dot at the end leaves a slash there.
def resolveSegments (acc : List (List Char)) : List (List Char) → List (List Char)
  | [] => acc.reverse
  | s :: rest =>
    let kept :=
      if isDoubleDot s then parentSegments acc else if isSingleDot s then acc else s :: acc
    let isDot := isDoubleDot s || isSingleDot s
    if rest.isEmpty && isDot then ([] :: kept).reverse else resolveSegments kept rest

def normalPath (cs : List Char) : String :=
  let segments := Text.splitAt isSlash (if (cs.head?.map isSlash).getD false then cs.drop 1 else cs)
  let segments := resolveSegments [] (segments.map (Percent.encode escapedInPath))
  String.ofList (segments.flatMap ('/' :: ·))

-- Blanks and controls at both ends do not count, nor do line breaks and tabs anywhere.
def visible (cs : List Char) : List Char :=
  let isEdge (c : Char) : Bool := c.toNat ≤ 0x20
  ((cs.dropWhile isEdge).reverse.dropWhile isEdge).reverse.filter
    fun c => c != '\t' && c != '\n' && c != '\r'

def readRest? (scheme : Scheme) (cs : List Char) : Option Url := do
  let authority := cs.takeWhile (!endsAuthority ·)
  let cs := cs.dropWhile (!endsAuthority ·)
  let (userInfo, hostPort) := splitUserInfo authority
  let user := userInfo.takeWhile (· != ':')
  let password := (userInfo.dropWhile (· != ':')).drop 1
  let (host, port) := splitPort false hostPort
  let host ← Host.read? host
  let port ← readPort? scheme (port.drop 1)
  let (cs, fragment) := (cs.takeWhile (· != '#'), cs.dropWhile (· != '#'))
  let (path, query) := (cs.takeWhile (· != '?'), cs.dropWhile (· != '?'))
  let part (escaped : Char → Bool) (cs : List Char) : Option String :=
    if cs.isEmpty then none else some (String.ofList (Percent.encode escaped (cs.drop 1)))
  return {
    scheme, host, port
    user := String.ofList (Percent.encode escapedInUser user)
    password := String.ofList (Percent.encode escapedInUser password)
    path := normalPath path
    query := part escapedInQuery query
    fragment := part escapedInFragment fragment }

-- The normal form of a URL: backslashes are slashes, the host is in its canonical form, the default port
-- is left out, dots are resolved in the path, and what a URL cannot hold is percent-encoded.
def read? (text : String) : Option Url :=
  let cs := visible text.toList
  let afterScheme (s : Scheme) : Option (List Char) :=
    let name := s.name.toList ++ [':']
    if Text.lowerAscii (cs.take name.length) = name then some (cs.drop name.length) else none
  match afterScheme .https, afterScheme .http with
  | some rest, _ => readRest? .https (rest.dropWhile isSlash)
  | none, some rest => readRest? .http (rest.dropWhile isSlash)
  | none, none => none

def portNumber (u : Url) : Nat :=
  u.port.getD (defaultPort u.scheme)

-- The host, and the port unless it is the scheme's own.
def authority (u : Url) : String :=
  u.host.text ++ match u.port with
    | some n => ":" ++ toString n
    | none => ""

def target (u : Url) : String :=
  u.path ++ match u.query with
    | some q => "?" ++ q
    | none => ""

-- The user name and the password that the URL gives. A password that is no text is none, and neither
-- is anything behind a name that is no text.
def credentials? (u : Url) : Option (String × String) := do
  let user ← Utf8.decodeString? (Percent.decodeText u.user.toList)
  let password ← Utf8.decodeString? (Percent.decodeText u.password.toList) <|> some ""
  if user.isEmpty && password.isEmpty then none else some (user, password)

def withoutCredentials (u : Url) : Url :=
  { u with user := "", password := "" }

def text (u : Url) : String :=
  let userInfo :=
    if u.user.isEmpty && u.password.isEmpty then ""
    else u.user ++ (if u.password.isEmpty then "" else ":" ++ u.password) ++ "@"
  let fragment := match u.fragment with
    | some f => "#" ++ f
    | none => ""
  u.scheme.name ++ "://" ++ userInfo ++ u.authority ++ u.target ++ fragment

example : (read? "http://127.1:80/a/../b?c d#e").map text = some "http://127.0.0.1/b?c%20d#e" := by
  decide +kernel
example : (read? "HTTPS:\\\\u:p@[::1]:8443").bind credentials? = some ("u", "p") := by
  decide +kernel
example : read? "http://h:65536/" = none := by decide +kernel

end Url
end AccessControl.Http
