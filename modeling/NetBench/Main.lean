import NetBench.Launch.Process
import NetBench.Options.Help
import Std.Async.TCP
import Std.Async.Timer
import Std.Async.UDP
import Std.Time

/-! The program: it plays one role over the sockets of the system, logs on standard output, and
reports a failed start or a failed server on standard error. -/
namespace NetBench.Live
open Std.Async

/-! Values of the system -/

def address (e : Endpoint) : Std.Net.SocketAddress :=
  match e.ip with
  | .v4 ip => .v4 ⟨.ofParts ip.a ip.b ip.c ip.d, e.port⟩
  | .v6 ip => .v6 ⟨⟨Vector.ofFn fun i => ip.groups.getD i 0⟩, e.port⟩

def endpoint : Std.Net.SocketAddress → Endpoint
  | .v4 a => ⟨.v4 ⟨a.addr.octets[0], a.addr.octets[1], a.addr.octets[2], a.addr.octets[3]⟩, a.port⟩
  | .v6 a => ⟨.v6 ⟨a.addr.segments.toList, a.addr.segments.length_toList⟩, a.port⟩

def errorCode : IO.Error → Option UInt32
  | .alreadyExists _ c _ | .otherError c _ | .resourceBusy c _ | .resourceVanished c _
  | .unsupportedOperation c _ | .hardwareFault c _ | .unsatisfiedConstraints c _
  | .illegalOperation c _ | .protocolError c _ | .timeExpired c _ | .interrupted _ c _
  | .noFileOrDirectory _ c _ | .invalidArgument _ c _ | .permissionDenied _ c _
  | .resourceExhausted _ c _ | .inappropriateType _ c _ | .noSuchThing _ c _ => some c
  | .unexpectedEof | .userError _ => none

/-- Sockets count error numbers below zero, files above. -/
def cause (e : IO.Error) : Cause :=
  let known := (errorCode e).bind fun c => OsError.ofCode? (min c (0 - c)).toNat
  match known with
  | some os => .os os
  | none => .text (toString e)

def attempt {α : Type} (action : IO (Except Fault α)) : IO (Except Fault α) :=
  try action catch e => return .error (.io (cause e))

/-- Waits for a result, or for the end of the time for it. -/
def within {α : Type} (timeout : Option Nat) (whole : Async α) (selector : Selector α) :
    Async (Except Fault α) := do
  match timeout with
  | none => return .ok (← whole)
  | some ms =>
    Selectable.one #[.case selector fun a => return .ok a,
      .case (← Selector.sleep (.ofNat ms)) fun _ => return .error .timedOut]

def perform {I : Interface} {α : Type} (answer : (r : I.Request) → IO (I.Answer r)) :
    Talk I α → IO (Option α)
  | .done a => return some a
  | .rest => return none
  | .ask r next => do
    let a ← answer r
    perform answer (next a)

def depth : Nat := UInt64.size

def stamp : IO String := do
  let now ← Std.Time.Timestamp.now
  let utc := Std.Time.DateTime.ofTimestamp now Std.Time.TimeZone.ZoneRules.UTC
  return utc.format "uuuu-MM-dd'T'HH:mm:ss.SSSSSS'Z'"

def log (filter : Launch.Filter) (e : Event) : IO Unit := do
  if filter.admits e then
    let gap := if e.level.name.length = 4 then "  " else " "
    IO.println ((← stamp) ++ gap ++ e.line)
    (← IO.getStdout).flush

/-! Streams -/

structure Streams (Phase : Type) where
  queue : IO.Ref (Option TCP.Socket.Server)
  conns : IO.Ref (List (Nat × TCP.Socket.Client))
  opened : IO.Ref Nat
  phase : IO.Ref Phase

variable {Phase : Type}

def Streams.keep (w : Streams Phase) (client : TCP.Socket.Client) : IO Nat := do
  let conn := (← w.opened.get) + 1
  w.opened.set conn
  w.conns.modify ((conn, client) :: ·)
  return conn

def Streams.using {α : Type} (w : Streams Phase) (conn : Nat)
    (action : TCP.Socket.Client → IO (Except Fault α)) : IO (Except Fault α) := do
  match (← w.conns.get).lookup conn with
  | none => return .error .closed
  | some client => attempt (action client)

def Streams.answer (say : Event → IO Unit) (origin : Nat) (w : Streams Phase) :
    (r : Stream.Request Phase) → IO r.Answer
  | .listen own backlog => attempt do
    let server ← TCP.Socket.Server.mk
    server.bind (address own)
    server.listen (min backlog 0x7FFFFFFF)
    w.queue.set (some server)
    return .ok ()
  | .accept timeout => do
    match ← w.queue.get with
    | none => return .error .closed
    | some server => attempt do
      match ← (within timeout server.accept server.acceptSelector).block with
      | .error why => return .error why
      | .ok client =>
        say (.accepted (endpoint (← client.getPeerName)))
        return .ok (← w.keep client)
  | .read conn room timeout => w.using conn fun client => do
    let size := room.toUInt64
    match ← (within timeout (client.recv? size) (client.recvSelector size)).block with
    | .error why => return .error why
    | .ok data => return Stream.arrival room (data.elim 0 ByteArray.size)
  | .write conn data => w.using conn fun client => do
    (client.send ⟨data.toArray⟩).block
    return .ok data.length
  | .connect remote => attempt do
    let client ← TCP.Socket.Client.mk
    (client.connect (address remote)).block
    say (.dialled remote (some (endpoint (← client.getSockName))))
    return .ok (← w.keep client)
  | .disconnect conn => do
    let _ ← w.using conn fun client => do
      client.shutdown.block
      return .ok ()
    w.conns.modify (·.filter (·.1 != conn))
  | .clock => return ((← IO.monoNanosNow) / 1000 - origin).toUInt64
  | .note e => say e
  | .enter phase => w.phase.set phase

/-- Runs a role over streams: its last phase, and its result. -/
def playStream {α : Type} (say : Event → IO Unit) (start : Phase)
    (program : Stream.Program Phase α) : IO (Phase × Option α) := do
  let w : Streams Phase :=
    ⟨← IO.mkRef none, ← IO.mkRef [], ← IO.mkRef 0, ← IO.mkRef start⟩
  let origin := (← IO.monoNanosNow) / 1000
  let result ← perform (I := Stream.interface Phase) (w.answer say origin) program
  return (← w.phase.get, result)

/-! Datagrams -/

def answerDatagram (say : Event → IO Unit) (socket : IO.Ref (Option UDP.Socket)) :
    (r : Datagram.Request) → IO r.Answer
  | .bind own => attempt do
    let s ← UDP.Socket.mk
    s.bind (address own)
    socket.set (some s)
    return .ok ()
  | .send data remote => do
    match ← socket.get with
    | none => return .error .closed
    | some s => attempt do
      (s.send ⟨data.toArray⟩ (some (address remote))).block
      return .ok data.length
  | .receive room timeout => do
    match ← socket.get with
    | none => return .error .closed
    | some s => attempt do
      let size := room.toUInt64
      match ← (within timeout (s.recv size) (s.recvSelector size)).block with
      | .error why => return .error why
      | .ok (data, peer) =>
        let peer := peer.elim ⟨.v4 .unspecified, 0⟩ endpoint
        return .ok (data.toList, peer)
  | .close => socket.set none
  | .pause length => (sleep (.ofNat (Clock.lasting length))).block
  | .note e => say e

def playDatagram {α : Type} (say : Event → IO Unit) (program : Datagram.Program α) :
    IO (Option α) := do
  let socket ← IO.mkRef none
  perform (I := Datagram.interface) (answerDatagram say socket) program

/-! The whole program -/

def readFile (path : String) : IO (Except Cause String) := do
  try
    let bytes ← IO.FS.readBinFile path
    return match String.fromUTF8? bytes with
      | some text => .ok text
      | none => .error .notText
  catch e => return .error (cause e)

def filterVariable : String := "RUST_LOG"

/-- Plays the role of the settings; a role that runs out of its depth has nothing to say. -/
def play (s : Settings) (say : Event → IO Unit) : IO (Option Launch.Farewell) := do
  match s.role with
  | .tcpServer =>
    let (phase, result) ← playStream say .idle (Stream.Drain.run s depth)
    return result.map (.ofDrain phase)
  | .tcpClient =>
    let (phase, result) ← playStream say .idle (Stream.Sender.session s depth)
    return result.map (.ofSender phase)
  | .udpServer =>
    let result ← playDatagram say (Datagram.Reflector.run s depth)
    return result.map .ofReflector
  | .udpClient =>
    let result ← playDatagram say (Datagram.Prober.run s depth)
    return result.map .ofProber

def halt (stop : Launch.Stop) : IO UInt32 := do
  match stop with
  | .refused why => if stop.code = 0 then IO.println why.message else IO.eprintln why.message
  | .unusable _ => stop.report.forM IO.eprintln
  return stop.code.toUInt32

end NetBench.Live

open NetBench NetBench.Live in
def main (args : List String) : IO UInt32 := do
  match ← Launch.settings readFile (fun _ e => Text.quote e.message) args with
  | .error stop => halt stop
  | .ok s =>
    match Launch.Filter.chosen? (← IO.getEnv filterVariable) s.logLevel with
    | none => return Launch.breakdown.toUInt32
    | some filter =>
      let say := log filter
      say (Launch.opening s)
      match ← play s say with
      | none => return 0
      | some farewell =>
        farewell.events.forM say
        farewell.report.forM IO.eprintln
        return farewell.code.toUInt32
