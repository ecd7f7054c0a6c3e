import NetBench.Datagram.Interface
import NetBench.Stream.Drain
import NetBench.Stream.Sender

/-! How a process takes its leave when its role has ended. A server that ends has failed and says
why in a final report; a client logs how it fared. -/
namespace NetBench.Launch

/-- The last events, the exit code, and the final report. -/
structure Farewell where
  events : List Event
  code : Nat
  report : Option String := none
  deriving DecidableEq, Repr

namespace Farewell
open NetBench.Stream

def ofDrain (phase : Drain.Phase) (why : Drain.Failure) : Farewell :=
  ⟨[.serverStopped phase.name], 1, some ("Error: " ++ why.form)⟩

def ofSender (phase : Sender.Phase) : Except Sender.Failure Nat → Farewell
  | .ok lastWrite => ⟨[.streamFinished lastWrite phase.name], 0, none⟩
  | .error why => ⟨[.clientFailed why.message (some phase.name)], 1, none⟩

def ofReflector (why : Datagram.Failure) : Farewell := ⟨[], 1, some ("Error: " ++ why.form)⟩

def ofProber : Except Datagram.Failure Nat → Farewell
  | .ok echoes => ⟨[.probeFinished echoes], 0, none⟩
  | .error why => ⟨[.clientFailed why.message none], 1, none⟩

end Farewell
end NetBench.Launch
