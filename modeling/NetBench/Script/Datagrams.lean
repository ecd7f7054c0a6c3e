import NetBench.Clock
import NetBench.Datagram.Interface
import NetBench.Script.Cue

/-! Datagrams out of scripts. Time moves by the delays of the cues and by pauses; the timeout of a
receive does not end it. A used-up script receives nothing more, and sends all. -/
namespace NetBench.Script
open Datagram

/-- The scripts that are left, and the time. -/
structure Datagrams where
  binds : List (Cue Unit)
  sends : List (Cue Amount)
  receives : List (Cue (List UInt8 × Endpoint))
  now : Nat := 0

namespace Datagrams

/-- The answer to a request. A datagram is cut to the room for it. -/
def answer : (r : Request) → Datagrams → Option r.Answer × Datagrams
  | .bind _, w =>
    let (cue, rest) := next (.now (.ok ())) w.binds
    (cue.reply, { w with binds := rest, now := w.now + cue.lasting })
  | .send data _, w =>
    let (cue, rest) := next (.now (.ok .full)) w.sends
    (cue.reply.map (·.map (·.of data.length)),
      { w with sends := rest, now := w.now + cue.lasting })
  | .receive room _, w =>
    let (cue, rest) := next .never w.receives
    (cue.reply.map (·.map fun (data, peer) => (data.take room, peer)),
      { w with receives := rest, now := w.now + cue.lasting })
  | .close, w => (some (), w)
  | .pause length, w => (some (), { w with now := w.now + Clock.lasting length })
  | .note _, w => (some (), w)

def handler : Handler interface Datagrams := ⟨answer, now⟩

/-- A depth that no loop of a role outlasts: each of its turns uses up a receive. -/
def depth (w : Datagrams) : Nat := w.receives.length + 2

end Datagrams
end NetBench.Script
