import AccessControl.Config.Basic

namespace AccessControl

inductive Scheme
  | https
  | http
deriving DecidableEq, Repr, Inhabited

def Scheme.name : Scheme → String
  | .https => "https"
  | .http => "http"

-- The characters that put a scheme in front of a host.
def Scheme.mark (s : Scheme) : List Char :=
  s.name.toList ++ [':', '/', '/']

namespace Config

-- What follows a scheme at the front of a text, if it is there in any letter case.
def stripScheme? (s : Scheme) (url : List Char) : Option (List Char) :=
  if Text.lowerAscii (url.take s.mark.length) = s.mark then some (url.drop s.mark.length) else none

-- The scheme that a text begins with, else the default one, and the rest of it.
def splitScheme (url : List Char) : Scheme × List Char :=
  match stripScheme? .https url with
  | some rest => (.https, rest)
  | none =>
    match stripScheme? .http url with
    | some rest => (.http, rest)
    | none => (.https, url)

def dropTrailingSlashes (cs : List Char) : List Char :=
  (cs.reverse.dropWhile (· == '/')).reverse

def scheme (c : Config) : Scheme :=
  (splitScheme c.apiUrl.toList).1

-- The host requests go to: the tenant, if there is one, stands before it with a dot.
def host (c : Config) : String :=
  let host := String.ofList (dropTrailingSlashes (splitScheme c.apiUrl.toList).2)
  match c.tenant with
  | some tenant => tenant ++ "." ++ host
  | none => host

def serviceUrl (c : Config) : String :=
  c.scheme.name ++ "://" ++ c.host

def isCleartext (c : Config) : Bool :=
  (stripScheme? .http c.apiUrl.toList).isSome

end Config

-- What is asked of the service: decisions on given assets, or the assets that are allowed.
inductive Endpoint
  | evaluations
  | search
deriving DecidableEq, Repr, Inhabited

namespace Endpoint

def path : Endpoint → String
  | evaluations => "/access/v2/evaluations"
  | search => "/access/v2/search"

def url (e : Endpoint) (c : Config) : String :=
  c.serviceUrl ++ e.path

end Endpoint
end AccessControl
