import NetBench.Clock
import NetBench.Datagram.Interface
import NetBench.Host.Machine
import NetBench.Stream.Interface

/-! Playing the roles on such a machine. -/
namespace NetBench.Host

def Machine.answer {Phase : Type} :
    (r : Stream.Request Phase) → Machine → Option r.Answer × Machine
  | .listen address _, m =>
    let (result, m) := m.occupy .stream address
    (some (result.map fun _ => ()), m)
  | .accept timeout, m => m.idle timeout
  | .read conn room timeout, m =>
    let (result, m) := m.read conn room timeout
    (result.map (·.map (·.length)), m)
  | .write conn data, m => m.write conn data
  | .connect remote, m => (some (.error (Machine.refusal remote)), m)
  | .disconnect conn, m => (some (), m.disconnect conn)
  | .clock, m => (some (Clock.running 0 m.now), m)
  | .note _, m => (some (), m)
  | .enter _, m => (some (), m)

def Machine.streams (Phase : Type) : Handler (Stream.interface Phase) Machine := ⟨answer, now⟩

/-- A machine with the datagram socket of a role. -/
structure Socketed where
  machine : Machine
  own : Endpoint := ⟨.v4 .unspecified, 0⟩

/-- Datagrams on the machine. -/
def Socketed.answer : (r : Datagram.Request) → Socketed → Option r.Answer × Socketed
  | .bind address, s => match s.machine.occupy .datagram address with
    | (.ok own, machine) => (some (.ok ()), ⟨machine, own⟩)
    | (.error why, machine) => (some (.error why), { s with machine })
  | .send data remote, s => (some (Machine.sendTo s.own remote data), s)
  | .receive _ timeout, s =>
    let (result, machine) := s.machine.idle timeout
    (result, { s with machine })
  | .close, s => (some (), { s with machine := s.machine.release .datagram s.own })
  | .pause length, s => (some (), { s with machine.now := s.machine.now + Clock.lasting length })
  | .note _, s => (some (), s)

def Socketed.datagrams : Handler Datagram.interface Socketed := ⟨answer, fun s => s.machine.now⟩

end NetBench.Host
