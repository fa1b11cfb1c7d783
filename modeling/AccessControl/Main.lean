import AccessControl.CommandLine.Run
import AccessControl.CommandLine.Usage
import AccessControl.Supply
import AccessControl.Transport.Https
import AccessControl.Transport.Tape
import Std.Async.DNS
import Std.Async.TCP
import Std.Async.Timer
import Std.Time

-- The run itself is a function; here it gets its files, its environment, its clock and its random bits,
-- and what it does is carried out: lines are written, pauses are waited for and requests are sent. Requests
-- go out over plain TCP. There is no TLS here, so that every https request is refused.
namespace AccessControl.CommandLine

open Std.Async

-- The number of a system error, which may come negated.
def errorNumber (code : UInt32) : Nat :=
  if code < 0x80000000 then code.toNat else 0x100000000 - code.toNat

def fileErrorOf (number : Nat) (detail : String) : FileError :=
  match number with
  | 2 => .notFound
  | 20 => .notDirectory
  | 21 => .isDirectory
  | 22 => .nulInPath
  | 36 => .nameTooLong
  | n => .other (detail.capitalize ++ " (os error " ++ toString n ++ ")")

def fileError : IO.Error → FileError
  | .noFileOrDirectory _ code detail => fileErrorOf (errorNumber code) detail
  | .inappropriateType _ code detail => fileErrorOf (errorNumber code) detail
  | .invalidArgument _ code detail => fileErrorOf (errorNumber code) detail
  | .permissionDenied _ code detail => fileErrorOf (errorNumber code) detail
  | e => .other (toString e)

def snapshot (path : String) : IO (String × Except FileError Bytes) := do
  match ← (IO.FS.readBinFile path).toBaseIO with
  | .ok bytes => return (path, .ok bytes.toList)
  | .error e => return (path, .error (fileError e))

def readerOf (files : List (String × Except FileError Bytes)) : Volume.Reader :=
  fun path => (files.lookup path).getD (.error .notFound)

-- The files that the run may read: the configuration, and the authorities that it names.
def files (r : Resolver) : IO (List (String × Except FileError Bytes)) := do
  let config ← snapshot r.path
  match (r.tryLoad (readerOf [config])).2.config.caBundlePath with
  | some path => return [config, ← snapshot path]
  | none => return [config]

def environment : IO Environment := do
  let known : List Variable :=
    [.configPath, .apiUrl, .apiToken, .tenant, .debug, .accessLogging, .timeout, .connectTimeout,
      .retryCount, .retryDelay, .validateSsl, .userAgent, .caBundle]
  let values ← known.filterMapM fun v => do
    return (← IO.getEnv v.name).map (v.name, ·)
  return .process values

def now : IO Nat := do
  return (← Std.Time.Timestamp.now).toMillisecondsSinceUnixEpoch.val.toNat

-- A command line makes one call at most, so that there is nothing to be told apart by the place.
def supply : IO Supply := do
  let bits := (← IO.getRandomBytes 16).toList.foldl (fun n b => n * 256 + b.toNat) 0
  let time ← now
  return { bits := fun _ => .ofNat 122 bits, clock := fun _ => time }

def socketAddress (port : Nat) : Std.Net.IPAddr → Std.Net.SocketAddress
  | .v4 addr => .v4 ⟨addr, UInt16.ofNat port⟩
  | .v6 addr => .v6 ⟨addr, UInt16.ofNat port⟩

def addresses (host : Http.Host) : Async (List Std.Net.IPAddr) := do
  match host with
  | .ipv4 n =>
    let octet (i : Nat) : UInt8 := UInt8.ofNat (n / Nat.pow 256 (3 - i))
    return [.v4 ⟨.ofFn fun i => octet i⟩]
  | .ipv6 pieces => return [.v6 ⟨.ofFn fun i => UInt16.ofNat (pieces.getD i 0)⟩]
  | .name text => return (← DNS.getAddrInfo text "").toList

def within (time : Nat) (act : Async α) : Async (Option α) :=
  Async.race (some <$> act) (do sleep (.ofNat time); return none)

-- Whether more bytes cannot change what is made of a response.
def isSettled (bytes : Bytes) : Bool :=
  match Http.Delivery.ofReceived { bytes, stillOpen := true } with
  | .response r => r.ending != .silent || maxResponseBytes < r.body.length
  | .timedOut => false
  | _ => true

partial def receive (socket : TCP.Socket.Client) (deadline : Nat) (bytes : Bytes) :
    Async Http.Received := do
  if isSettled bytes then return { bytes }
  let now ← IO.monoMsNow
  match ← within (deadline - now) (socket.recv? 65536) with
  | some (some more) => receive socket deadline (bytes ++ more.toList)
  | some none => return { bytes }
  | none => return { bytes, stillOpen := true }

def exchange (c : Config) (url : Http.Url) (request : Http.Request) : Async Http.Delivery := do
  let deadline := (← IO.monoMsNow) + c.timeout
  if url.scheme = .https then return .refused
  let socket ← TCP.Socket.Client.mk
  let connected ← within (min c.timeout c.connectTimeout) do
    let candidates ← addresses url.host
    match candidates with
    | [] => return false
    | address :: _ =>
      socket.connect (socketAddress url.portNumber address)
      return true
  match connected with
  | none => return .timedOut
  | some false => return .refused
  | some true =>
    socket.send request.bytes.toByteArray
    return .ofReceived (← receive socket deadline [])

-- A connection that cannot be made is refused, whatever the reason.
def deliver (c : Config) (url : Http.Url) (request : Http.Request) : IO Http.Delivery := do
  match ← ((exchange c url request).block).toBaseIO with
  | .ok d => return d
  | .error _ => return .refused

def carryOut (log : IO.FS.Stream) (es : List Effect) : IO Unit :=
  es.forM fun
    | .logged e => do
      log.putStr (Log.lines [e])
      log.flush
    | .paused delay => IO.sleep (UInt32.ofNat (min delay 0xFFFFFFFF))
    | _ => return

-- Repeats the run with one more outcome of a request each time, until none is missing. The supply is the
-- same every time, so that what is repeated is the same call.
partial def play (c : Config) (log : IO.FS.Stream) (run : Run (Stocked Tape) Completion)
    (supply : Supply) (known : List Http.Delivery) (done : Nat) : IO Completion := do
  let o := run { supply, state := { deliveries := known } }
  match o.state.state.asked with
  | none =>
    carryOut log (o.effects.drop done)
    return o.value
  | some (url, request) =>
    let settled := Tape.settled known.length o.effects
    carryOut log (settled.drop done)
    let d ← deliver c url request
    play c log run supply (known ++ [d]) settled.length

def complete (log : IO.FS.Stream) (i : Invocation) : IO Completion := do
  let environment ← environment
  let start : Surroundings (Stocked Tape) :=
    { environment
      file := fun _ => .error .notFound
      transport := (Transport.https (fun _ => .error .notFound) Tape.service).stocked
      draw := Call.draw
      time := ← now }
  let resolver := start.resolver i.configPath
  let file := readerOf (← files resolver)
  let surroundings := { start with file, transport := (Transport.https file Tape.service).stocked }
  play (resolver.tryLoad file).2.config log (i.run surroundings) (← supply) [] 0

def execute (i : Invocation) : IO UInt32 := do
  let completion ← match i.logPath with
    | none => complete (← IO.getStderr) i
    | some path =>
      match ← (IO.FS.Handle.mk path .append).toBaseIO with
      | .ok handle => complete (.ofHandle handle) i
      | .error e => pure (.failed (logComplaint path (fileError e)))
  completion.output.forM IO.println
  completion.complaint.forM fun s => IO.eprintln s
  return completion.status.toUInt32

end AccessControl.CommandLine

open AccessControl.CommandLine in
def main (args : List String) : IO UInt32 := do
  match Invocation.read args with
  | .ok invocation => execute invocation
  | .error .help =>
    usageLines.forM IO.println
    return 0
  | .error .misuse =>
    usageLines.forM fun line => IO.eprintln line
    return 2
