import AccessControl.Host.Adapter

namespace AccessControl
namespace Host

-- A resolver among its surroundings, which change between its loads: its path, the files, and the sink
-- that takes what a failed load records.
structure Setup where
  resolver : Resolver
  -- The files as they are now.
  file : Volume.Reader
  -- Sinks are told apart by number; this one takes the records now.
  sink : Nat
  records : Nat → List Log.Event

namespace Setup

inductive Step
  | withPath (path : String)
  | withSink (sink : Nat)
  | load (time : Nat)
  | tryLoad
  | loadAdapter (time : Nat)
  | change (file : Volume.Reader)

def Step.isLoad : Step → Bool
  | load _ | tryLoad | loadAdapter _ => true
  | _ => false

-- What a step gives back.
inductive Answer (σ : Type)
  | done
  | loaded (success : Bool)
  | config (result : Except ConfigError Config)
  | adapter (result : Except AdapterError (Adapter σ))

def Answer.isSuccess : Answer σ → Bool
  | done => true
  | loaded success => success
  | config result => result.isOk
  | adapter result => result.isOk

def record (s : Setup) (events : List Log.Event) : Setup :=
  { s with records := fun sink => s.records sink ++ if sink = s.sink then events else [] }

variable {σ : Type} (transport : Transport σ)

def step (s : Setup) : Step → Answer σ × Setup
  | .withPath path => (.done, { s with resolver := s.resolver.withPath path })
  | .withSink sink => (.done, { s with sink })
  | .load time =>
    let (success, events, resolver) := s.resolver.load s.file time
    (.loaded success, { s.record events with resolver })
  | .tryLoad =>
    let (result, resolver) := s.resolver.tryLoad s.file
    (.config result, { s with resolver })
  | .loadAdapter time =>
    let (result, events, resolver) := Adapter.load transport s.resolver s.file time
    (.adapter result, { s.record events with resolver })
  | .change file => (.done, { s with file })

-- A step as it was taken.
structure Moment (σ : Type) where
  before : Setup
  step : Step
  answer : Answer σ
  after : Setup

def history (s : Setup) : List Step → List (Moment σ)
  | [] => []
  | step :: steps =>
    let (answer, next) := s.step transport step
    ⟨s, step, answer, next⟩ :: next.history steps

def run (s : Setup) : List Step → Setup
  | [] => s
  | step :: steps => (s.step transport step).2.run steps

end Setup
end Host
end AccessControl
