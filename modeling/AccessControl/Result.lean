namespace AccessControl

-- What an operation came to. The numeric codes cross the boundary to the host and never change.
inductive Result
  | ok
  | denied
  | allowed
  | error
  | configError
  | networkError
  | authError
  | timeoutError
  | invalidRequest
  | memoryError
deriving DecidableEq, Repr, Inhabited

namespace Result

def all : List Result :=
  [ok, denied, allowed, error, configError, networkError, authError, timeoutError,
    invalidRequest, memoryError]

def code : Result → Nat
  | ok => 0
  | denied => 1
  | allowed => 2
  | error => 3
  | configError => 4
  | networkError => 5
  | authError => 6
  | timeoutError => 7
  | invalidRequest => 8
  | memoryError => 9

def ofCode? (code : Int) : Option Result :=
  all.find? fun r => (r.code : Int) == code

def name : Result → String
  | ok => "OK"
  | denied => "DENIED"
  | allowed => "ALLOWED"
  | error => "ERROR"
  | configError => "CONFIG_ERROR"
  | networkError => "NETWORK_ERROR"
  | authError => "AUTH_ERROR"
  | timeoutError => "TIMEOUT_ERROR"
  | invalidRequest => "INVALID_REQUEST"
  | memoryError => "MEMORY_ERROR"

def description : Result → String
  | ok => "Success"
  | denied => "Access Denied"
  | allowed => "Access Allowed"
  | error => "General Error"
  | configError => "Configuration Error"
  | networkError => "Network Error"
  | authError => "Authentication Error"
  | timeoutError => "Timeout Error"
  | invalidRequest => "Invalid Request"
  | memoryError => "Memory Error"

-- Whether no answer was reached: everything but success, an allowance and a denial.
def isError : Result → Bool
  | ok | allowed | denied => false
  | _ => true

theorem ofCode?_code (r : Result) : ofCode? r.code = some r := by
  cases r <;> rfl

-- The result of a list of answers that must all allow: the first that does not, and an error for
-- the empty list, which has allowed nothing.
def combined : List Result → Result
  | [] => .error
  | rs => (rs.find? (· ≠ .allowed)).getD .allowed

end Result

-- What the host does with the command.
inductive Verdict
  | accept
  | reject
  | error
deriving DecidableEq, Repr, Inhabited

namespace Verdict

-- The return code that the host reads.
def returnCode : Verdict → Int
  | accept => 1
  | reject => 0
  | error => -1

def name : Verdict → String
  | accept => "accept"
  | reject => "reject"
  | error => "error"

-- The exit status that a verdict gives a command-line run.
def exitStatus : Verdict → UInt8
  | accept => 0
  | reject => 1
  | error => 2

end Verdict

namespace Result

-- Only an allowance accepts and only a denial rejects.
def verdict : Result → Verdict
  | allowed => .accept
  | denied => .reject
  | _ => .error

theorem verdict_eq_accept_iff {r : Result} : r.verdict = .accept ↔ r = .allowed := by
  cases r <;> simp [verdict]

theorem verdict_eq_reject_iff {r : Result} : r.verdict = .reject ↔ r = .denied := by
  cases r <;> simp [verdict]

-- The exit status of an operation that reaches no verdict: only success is zero.
def exitStatus (r : Result) : UInt8 :=
  if r = .ok then 0 else 2

end Result
end AccessControl
