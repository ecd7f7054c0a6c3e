import NetBench.Address.Reader
import NetBench.Settings.Basic
import NetBench.Stream.Interface

/-! The role that accepts one connection at a time and reads it to its end.
It has no end of its own: a failed accept is tried again, a failed read ends one connection. -/
namespace NetBench.Stream.Drain
open Rate

inductive Phase where
  | idle
  | listening
  | accepting
  | draining
  deriving DecidableEq, Repr

def Phase.name : Phase → String
  | .idle => "Idle"
  | .listening => "Listening"
  | .accepting => "Accepting"
  | .draining => "Draining"

/-- A failed setup. -/
inductive Failure where
  | address (why : Fault)
  | listen (why : Fault)
  deriving DecidableEq, Repr

namespace Failure

def fault : Failure → Fault
  | .address why | .listen why => why

def message : Failure → String
  | .address why => "Invalid listen address: " ++ why.message
  | .listen why => "Error creating listening queue: " ++ why.message

def form : Failure → String
  | .address why => "Address(" ++ why.form ++ ")"
  | .listen why => "Listen(" ++ why.form ++ ")"

end Failure

/-- Reads once, adding to the bytes received. -/
def step (s : Settings) (conn : Nat) (received : UInt64) :
    Program Phase (UInt64 ⊕ UInt64 × Fault) := do
  match ← read conn s.readBufferSize.toNat none with
  | .ok n => return .inl (addBytes received n)
  | .error why =>
    note (.readFinished received)
    return .inr (received, why)

/-- Reads to the end of a connection: the bytes received, and what ended it. -/
def drain (s : Settings) (conn depth : Nat) : Program Phase (UInt64 × Fault) :=
  Talk.loop (step s conn) depth 0

def serveOne (s : Settings) (depth : Nat) : Program Phase Unit := do
  enter .accepting
  match ← accept none with
  | .error why => note (.acceptFailed why)
  | .ok conn =>
    enter .draining
    note .reading
    let started ← clock
    let (received, why) ← drain s conn depth
    let ended ← clock
    disconnect conn
    note (.drained ⟨received, ended - started⟩ why)

/-- Serves connections one after the other, with both loops unfolded to `depth`. -/
def serve (s : Settings) (depth : Nat) : Program Phase Failure :=
  Talk.loop (fun () => do serveOne s depth; return .inl ()) depth ()

/-- The role at an address already read. It returns only if it cannot listen. -/
def runAt (s : Settings) (address : Endpoint) (depth : Nat) : Program Phase Failure := do
  enter .listening
  match ← listen address s.queueDepth with
  | .error why =>
    note (.queueFailed address why)
    enter .idle
    return .listen why
  | .ok () =>
    note (.listening address s.queueDepth)
    serve s depth

/-- The role. A bad address leaves its phase as it was. -/
def run (s : Settings) (depth : Nat) : Program Phase Failure :=
  match parseAddress s.listenHost with
  | .error why => return .address why
  | .ok ip => runAt s ⟨ip, s.listenPort⟩ depth

end NetBench.Stream.Drain
