import NetBench.Clock
import NetBench.Stream.Interface

/-! A stream transport for rehearsals: it hands out prepared results and keeps count of the calls
on it. Its counters show whether a role ever has two connections open, or accepts with one open. -/
namespace NetBench.Rehearsal
open NetBench.Stream

/-- A call, as it is recorded. -/
inductive Call where
  | listen (address : Endpoint) (depth : UInt32)
  | accept
  | read (conn : Nat)
  | write (conn length : Nat)
  | connect (remote : Endpoint)
  | disconnect (conn : Nat)
  deriving DecidableEq, Repr

def Call.isAccept : Call → Bool
  | .accept => true
  | _ => false

def Call.isWrite : Call → Bool
  | .write _ _ => true
  | _ => false

def Call.isDisconnect : Call → Bool
  | .disconnect _ => true
  | _ => false

/-- Prepared results and records. `listenError` and `connectError` befall one call each. Accepts
that are used up never complete, used-up reads are closed, used-up writes take everything. -/
structure Connections where
  listenError : Option Fault := none
  connectError : Option Fault := none
  accepts : List (Except Fault Unit) := []
  reads : List (Except Fault Nat) := []
  writes : List (Except Fault Nat) := []
  step : UInt64 := 0
  calls : List Call := []
  payloads : List (List UInt8) := []
  overlappingAccepts : Nat := 0
  maxLive : Nat := 0
  live : Nat := 0
  opened : Nat := 0
  readings : Nat := 0

namespace Connections

def acceptCalls (w : Connections) : Nat := w.calls.countP Call.isAccept
def writeCalls (w : Connections) : Nat := w.calls.countP Call.isWrite
def disconnects (w : Connections) : Nat := w.calls.countP Call.isDisconnect

def record (w : Connections) (call : Call) : Connections := { w with calls := w.calls ++ [call] }

/-- Makes a connection. Numbers count from 1 and are never used twice. -/
def establish (w : Connections) : Nat × Connections :=
  (w.opened + 1,
    { w with opened := w.opened + 1, live := w.live + 1, maxLive := max w.maxLive (w.live + 1) })

/-- The answer to a request. The clock moves by one step on every reading. -/
def answer {Phase : Type} : (r : Request Phase) → Connections → Option r.Answer × Connections
  | .listen address depth, w =>
    let w := w.record (.listen address depth)
    match w.listenError with
    | some why => (some (.error why), { w with listenError := none })
    | none => (some (.ok ()), w)
  | .accept _, w =>
    let w := w.record .accept
    let w := if w.live = 0 then w else { w with overlappingAccepts := w.overlappingAccepts + 1 }
    match w.accepts with
    | [] => (none, w)
    | .error why :: rest => (some (.error why), { w with accepts := rest })
    | .ok () :: rest =>
      let (conn, w) := { w with accepts := rest }.establish
      (some (.ok conn), w)
  | .connect remote, w =>
    let w := w.record (.connect remote)
    match w.connectError with
    | some why => (some (.error why), { w with connectError := none })
    | none =>
      let (conn, w) := w.establish
      (some (.ok conn), w)
  | .read conn room _, w =>
    let w := w.record (.read conn)
    match w.reads with
    | [] => (some (.error .closed), w)
    | result :: rest => (some (result.map (min · room)), { w with reads := rest })
  | .write conn data, w =>
    let w := { w.record (.write conn data.length) with payloads := w.payloads ++ [data] }
    match w.writes with
    | [] => (some (.ok data.length), w)
    | result :: rest => (some result, { w with writes := rest })
  | .disconnect conn, w => (some (), { w.record (.disconnect conn) with live := w.live - 1 })
  | .clock, w =>
    (some (Clock.stepping 0 w.step w.readings 0), { w with readings := w.readings + 1 })
  | .note _, w => (some (), w)
  | .enter _, w => (some (), w)

def handler (Phase : Type) : Handler (interface Phase) Connections := ⟨answer, fun _ => 0⟩

end Connections
end NetBench.Rehearsal
