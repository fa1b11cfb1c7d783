import AccessControl.Transport.Attempt

namespace AccessControl

structure RetryPolicy where
  -- Attempts after the first.
  retryCount : UInt32
  -- The pause before each of them, in milliseconds.
  delay : Nat
deriving DecidableEq, Repr

namespace RetryPolicy

def ofConfig (c : Config) : RetryPolicy :=
  ⟨c.retryCount, c.retryDelay⟩

-- The number of attempts that a request gets: one more than the retries, as far as 32 bits count.
def attempts (p : RetryPolicy) : Nat :=
  min (p.retryCount.toNat + 1) (UInt32.size - 1)

variable {σ α : Type}

private def ordinal (p : RetryPolicy) (number : Nat) : String :=
  "attempt " ++ toString number ++ "/" ++ toString p.attempts

-- The pause before every attempt but the first.
def pauseBefore (p : RetryPolicy) (config : Config) (call : Call) (number : Nat) : Run σ Unit :=
  if 1 < number then do
    config.log .debug "retry_scheduled" call
      (p.ordinal number ++ " after " ++ toString p.delay ++ "ms")
    Run.emit (.paused p.delay)
  else pure ()

-- The attempts from `number` on, `left` of them at most.
def runFrom (p : RetryPolicy) (config : Config) (call : Call)
    (attempt : Nat → Run σ (Except AccessError α)) : (left number : Nat) →
    Run σ (Except AccessError α)
  | 0, _ => pure (.error (.network "all retry attempts failed" call.requestId))
  | left + 1, number => do
    p.pauseBefore config call number
    match ← attempt number with
    | .ok v => pure (.ok v)
    | .error e =>
      if e.isRetryable then do
        config.log .debug "attempt_failed" call
          (p.ordinal number ++ " failed: " ++ e.description)
        if left = 0 then pure (.error e) else p.runFrom config call attempt left (number + 1)
      else pure (.error e)

-- All attempts; each is told its number, from one on.
def run (p : RetryPolicy) (config : Config) (call : Call)
    (attempt : Nat → Run σ (Except AccessError α)) : Run σ (Except AccessError α) :=
  p.runFrom config call attempt p.attempts 1

end RetryPolicy
end AccessControl
