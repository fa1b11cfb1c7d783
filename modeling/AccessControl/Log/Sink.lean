import AccessControl.File.Volume
import AccessControl.Log.Event

namespace AccessControl.Log

-- A file that is held open for appending. It may be opened again at any time.
structure Sink where
  place : Place
  files : Volume

namespace Sink

def ofPath (files : Volume) (path : String) : Except FileError Sink :=
  (files.openAppend path).map fun (place, files) => { place, files }

def record (s : Sink) (e : Event) : Sink :=
  { s with files := s.files.append s.place (Utf8.encodeString (lines [e])) }

inductive Step
  | recorded (event : Event)
  | reopened

def step (path : String) (s : Sink) : Step → Except FileError Sink
  | .recorded e => .ok (s.record e)
  | .reopened => ofPath s.files path

def run (path : String) : List Step → Sink → Except FileError Sink
  | [], s => .ok s
  | t :: ts, s => do run path ts (← s.step path t)

end Sink
end AccessControl.Log
