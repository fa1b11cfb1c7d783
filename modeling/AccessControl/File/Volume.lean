import AccessControl.File.Error
import AccessControl.Text.Utf8

namespace AccessControl

-- The names from the root to a place in the tree.
abbrev Place := List String

inductive Node
  | file (content : Bytes)
  | directory
  -- Something that is there but cannot be read.
  | unreadable (error : FileError)
deriving DecidableEq, Repr, Inhabited

-- The root is a directory whether it is listed or not.
structure Volume where
  entries : List (Place × Node)
  workingDirectory : Place
deriving Inhabited

namespace Volume

-- What reading the file at a path gives. Paths are texts: a path that is not UTF-8, as a command line may
-- name one, is outside of all that is said here.
abbrev Reader := String → Except FileError Bytes

-- A directory is there when it is listed or when something is listed below it.
def node? (v : Volume) (place : Place) : Option Node :=
  match v.entries.lookup place with
  | some n => some n
  | none =>
    if v.entries.any (fun e => place.isPrefixOf e.1) || place.isEmpty then some .directory else none

inductive Located
  | present (place : Place) (node : Node)
  -- The last name of the path is missing from a directory that is there.
  | absent (place : Place)
deriving DecidableEq, Repr

-- The longest name and the longest path that a system accepts, in bytes.
def maxName : Nat := 255

def maxPath : Nat := 4095

-- Follows names from `place`, which is there. Of several obstacles on the way the first is reported.
def walk (v : Volume) (place : Place) : List String → Except FileError Located
  | [] =>
    match v.node? place with
    | some n => .ok (.present place n)
    | none => .error .notFound
  | name :: names =>
    match v.node? place with
    | some .directory =>
      if name = "." then v.walk place names
      else if name = ".." then v.walk place.dropLast names
      else if maxName < Utf8.length name then .error .nameTooLong
      else
        let next := place ++ [name]
        if (v.node? next).isSome then v.walk next names
        else if names.isEmpty then .ok (.absent next)
        else .error .notFound
    | some (.unreadable e) => .error e
    | some (.file _) => .error .notDirectory
    | none => .error .notFound

def checkPath (path : String) : Except FileError Unit :=
  if path.toList.contains '\x00' then .error .nulInPath
  else if path.isEmpty then .error .notFound
  else if maxPath < Utf8.length path then .error .nameTooLong
  else .ok ()

def start (v : Volume) (path : String) : Place :=
  if path.toList.head? = some '/' then [] else v.workingDirectory

def names (path : String) : List String :=
  (path.splitOn "/").filter (!·.isEmpty)

def locate (v : Volume) (path : String) : Except FileError Located := do
  checkPath path
  v.walk (v.start path) (names path)

def endsInSlash (path : String) : Bool :=
  path.toList.getLast? = some '/'

def read (v : Volume) (path : String) : Except FileError Bytes :=
  match v.locate path with
  | .error e => .error e
  | .ok (.absent _) => .error .notFound
  | .ok (.present _ .directory) => .error .isDirectory
  | .ok (.present _ (.unreadable e)) => .error e
  | .ok (.present _ (.file content)) =>
    if endsInSlash path then .error .notDirectory else .ok content

def put (v : Volume) (place : Place) (node : Node) : Volume :=
  { v with entries := (place, node) :: v.entries.filter (·.1 != place) }

def remove (v : Volume) (place : Place) : Volume :=
  { v with entries := v.entries.filter fun e => !place.isPrefixOf e.1 }

-- The names that lead to the last one, if a slash follows that and it is a name of its own.
def namesBeforeSlash? (path : String) : Option (List String) :=
  match (names path).getLast? with
  | some last =>
    if endsInSlash path && last ≠ "." && last ≠ ".." then some (names path).dropLast else none
  | none => none

-- Opens a file for appending: it is made, empty, unless it is there. A name with a slash after it
-- could only be one of a directory, so nobody looks whether it is there.
def openAppend (v : Volume) (path : String) : Except FileError (Place × Volume) := do
  checkPath path
  if let some above := namesBeforeSlash? path then
    -- what the names lead to must be a directory itself
    let _ ← v.walk (v.start path) (above ++ ["."])
    throw .isDirectory
  match ← v.locate path with
  | .absent place => return (place, v.put place (.file []))
  | .present _ .directory => throw .isDirectory
  | .present _ (.unreadable e) => throw e
  | .present place (.file _) => return (place, v)

def append (v : Volume) (place : Place) (bytes : Bytes) : Volume :=
  match v.node? place with
  | some (.file content) => v.put place (.file (content ++ bytes))
  | _ => v

end Volume
end AccessControl
