import NetBench.Datagram.Interface

/-! A datagram transport for rehearsals: it hands out prepared results and records what it is
asked for. -/
namespace NetBench.Rehearsal
open Datagram

/-- Prepared results and records. `bindError` befalls one call. Receives that are used up never
complete, used-up sends take everything. -/
structure Datagrams where
  bindError : Option Fault := none
  receives : List (Except Fault (List UInt8 × Endpoint)) := []
  sends : List (Except Fault Nat) := []
  binds : List Endpoint := []
  sent : List (List UInt8 × Endpoint) := []
  timeouts : List (Option Nat) := []
  closes : Nat := 0

namespace Datagrams

/-- The answer to a request. A datagram is cut to the room for it. -/
def answer : (r : Request) → Datagrams → Option r.Answer × Datagrams
  | .bind address, w =>
    let w := { w with binds := w.binds ++ [address] }
    match w.bindError with
    | some why => (some (.error why), { w with bindError := none })
    | none => (some (.ok ()), w)
  | .send data remote, w =>
    let w := { w with sent := w.sent ++ [(data, remote)] }
    match w.sends with
    | [] => (some (.ok data.length), w)
    | result :: rest => (some result, { w with sends := rest })
  | .receive room timeout, w =>
    let w := { w with timeouts := w.timeouts ++ [timeout] }
    match w.receives with
    | [] => (none, w)
    | result :: rest =>
      (some (result.map fun (data, peer) => (data.take room, peer)), { w with receives := rest })
  | .close, w => (some (), { w with closes := w.closes + 1 })
  | .pause _, w => (some (), w)
  | .note _, w => (some (), w)

def handler : Handler interface Datagrams := ⟨answer, fun _ => 0⟩

/-- A depth that no loop of a role outlasts: each of its turns uses up a receive. -/
def depth (w : Datagrams) : Nat := w.receives.length + 2

end Datagrams
end NetBench.Rehearsal
