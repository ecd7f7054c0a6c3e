import NetBench.Address.Reader
import NetBench.Rate.Meter
import NetBench.Settings.Basic
import NetBench.Stream.Interface

/-! The role that connects, greets, and then sends filler for as long as the transport takes it.
The connection is given up exactly once on every way out after it was made. -/
namespace NetBench.Stream.Sender
open Rate

inductive Phase where
  | idle
  | connecting
  | connected
  | streaming
  | terminated
  deriving DecidableEq, Repr

def Phase.name : Phase → String
  | .idle => "Idle"
  | .connecting => "Connecting"
  | .connected => "Connected"
  | .streaming => "Streaming"
  | .terminated => "Terminated"

/-- A failed session, by the step that failed. -/
inductive Failure where
  | address (why : Fault)
  | connect (why : Fault)
  | handshake (why : Fault)
  | write (why : Fault)
  deriving DecidableEq, Repr

namespace Failure

def fault : Failure → Fault
  | .address why | .connect why | .handshake why | .write why => why

def message : Failure → String
  | .address why => "Invalid remote address: " ++ why.message
  | .connect why => "Error connecting: " ++ why.message
  | .handshake why => "Error sending greeting: " ++ why.message
  | .write why => "Errored on write: " ++ why.message

end Failure

/-- The greeting as it is sent, with a zero byte at its end. -/
def greetingBytes (text : String) : List UInt8 := Text.utf8 text ++ [0]

def filler (s : Settings) : List UInt8 := List.replicate s.writeBufferSize.toNat s.fillerByte

/-- What the stream has done so far: the open window of the meter, and all bytes taken. -/
structure Progress where
  meter : Meter
  total : UInt64

/-- Reports if it is time to, then writes `data` once. It stops at a failed write, and at the write
that reaches the byte limit. -/
def step (s : Settings) (data : List UInt8) (conn : Nat) (p : Progress) :
    Program Phase (Progress ⊕ Except Failure Nat) := do
  let now ← clock
  let (report?, meter) := p.meter.poll now
  match report? with
  | some report => note (.sendSpeed report)
  | none => pure ()
  match ← write conn data with
  | .error why =>
    note (.writeFailed p.total meter.pending why)
    return .inr (.error (.write why))
  | .ok taken =>
    let total := addBytes p.total taken
    match s.maxBytes with
    | some limit =>
      if limit ≤ total then
        note (.limitReached total)
        return .inr (.ok taken)
      else return .inl ⟨meter.record taken, total⟩
    | none => return .inl ⟨meter.record taken, total⟩

/-- Sends filler, unfolded to `depth` writes. The result is the count of the last write. -/
def stream (s : Settings) (conn depth : Nat) : Program Phase (Except Failure Nat) := do
  let start ← clock
  Talk.loop (step s (filler s) conn) depth ⟨Meter.new s.reportIntervalUs start, 0⟩

def converse (s : Settings) (conn depth : Nat) : Program Phase (Except Failure Nat) := do
  note (.greeting s.greeting)
  match ← write conn (greetingBytes s.greeting) with
  | .error why =>
    note (.greetingFailed why)
    return .error (.handshake why)
  | .ok _ =>
    enter .streaming
    stream s conn depth

/-- One session, with the address it connects to already read. -/
def sessionTo (s : Settings) (remote : Endpoint) (depth : Nat) :
    Program Phase (Except Failure Nat) := do
  enter .connecting
  match ← connect remote with
  | .error why =>
    note (.connectFailed remote why)
    enter .terminated
    return .error (.connect why)
  | .ok conn =>
    enter .connected
    note (.connected remote)
    let result ← converse s conn depth
    disconnect conn
    enter .terminated
    note .hungUp
    return result

def session (s : Settings) (depth : Nat) : Program Phase (Except Failure Nat) :=
  match parseAddress s.remoteHost with
  | .error why => do
    enter .terminated
    return .error (.address why)
  | .ok ip => sessionTo s ⟨ip, s.remotePort⟩ depth

end NetBench.Stream.Sender
