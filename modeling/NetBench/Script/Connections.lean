import NetBench.Clock
import NetBench.Script.Cue
import NetBench.Stream.Interface

/-! Connections out of scripts. Time moves only by the delays of the cues.
A used-up script accepts nothing more, and closes every read and write. -/
namespace NetBench.Script
open NetBench.Stream

/-- The scripts that are left, the clock with the number of its readings so far, the time, and the
number of connections made. -/
structure Connections where
  listens : List (Cue Unit)
  accepts : List (Cue Unit)
  connects : List (Cue Unit)
  reads : List (Cue Amount)
  writes : List (Cue Amount)
  clock : Clock
  readings : Nat := 0
  now : Nat := 0
  opened : Nat := 0

namespace Connections

/-- A reply to accepting or connecting; a new connection gets the next number, from 1 on. -/
def establish (w : Connections) :
    Option (Except Fault Unit) → Option (Except Fault Nat) × Connections
  | none => (none, w)
  | some (.error why) => (some (.error why), w)
  | some (.ok ()) => (some (.ok (w.opened + 1)), { w with opened := w.opened + 1 })

def answer {Phase : Type} :
    (r : Request Phase) → Connections → Option r.Answer × Connections
  | .listen _ _, w =>
    let (cue, rest) := next (.now (.ok ())) w.listens
    (cue.reply, { w with listens := rest, now := w.now + cue.lasting })
  | .accept _, w =>
    let (cue, rest) := next .never w.accepts
    { w with accepts := rest, now := w.now + cue.lasting }.establish cue.reply
  | .connect _, w =>
    let (cue, rest) := next (.now (.ok ())) w.connects
    { w with connects := rest, now := w.now + cue.lasting }.establish cue.reply
  | .read _ room _, w =>
    let (cue, rest) := next (.now (.error .closed)) w.reads
    (cue.reply.map (·.map (·.within room)), { w with reads := rest, now := w.now + cue.lasting })
  | .write _ data, w =>
    let (cue, rest) := next (.now (.error .closed)) w.writes
    (cue.reply.map (·.map (·.of data.length)),
      { w with writes := rest, now := w.now + cue.lasting })
  | .disconnect _, w => (some (), w)
  | .clock, w => (some (w.clock w.readings w.now), { w with readings := w.readings + 1 })
  | .note _, w => (some (), w)
  | .enter _, w => (some (), w)

def handler (Phase : Type) : Handler (interface Phase) Connections := ⟨answer, now⟩

/-- A depth that no loop of a role outlasts: each of its turns uses up a cue. -/
def depth (w : Connections) : Nat := w.accepts.length + w.reads.length + w.writes.length + 2

end Connections
end NetBench.Script
