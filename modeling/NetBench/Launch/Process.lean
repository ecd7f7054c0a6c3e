import NetBench.Datagram.Prober
import NetBench.Datagram.Reflector
import NetBench.Host.Roles
import NetBench.Launch.Farewell
import NetBench.Launch.Filter
import NetBench.Launch.Start

/-! A whole process on a machine without traffic: what it logs, what it reports at its end, and its
exit code. -/
namespace NetBench.Launch
open NetBench.Host

/-- What shows of a process. One that waits for ever has no exit code. -/
structure Outcome where
  code : Option Nat
  log : List String
  report : Option String
  deriving DecidableEq, Repr

/-- The first event of every role. -/
def opening (s : Settings) : Event :=
  .starting s.role (s.listenHost ++ ":" ++ toString s.listenPort.toNat)
    (s.remoteHost ++ ":" ++ toString s.remotePort.toNat)

def conclude {I : Interface} {σ α : Type} (events : List (Act I) → List Event)
    (farewell : List (Act I) → α → Farewell) (run : Run I σ α) :
    List Event × Option Farewell :=
  match run.ending with
  | .returned a => (events run.acts, some (farewell run.acts a))
  | .waiting | .unfinished => (events run.acts, none)

/-- Loops of a role are unfolded this far; nothing but the rounds of a prober goes round twice on
such a machine. -/
def depth (s : Settings) : Nat := s.rounds.elim 0 UInt64.toNat + 2

def perform (s : Settings) (m : Machine) : List Event × Option Farewell :=
  match s.role with
  | .tcpServer =>
    conclude Stream.events (fun acts => .ofDrain (Stream.phaseAfter .idle acts))
      ((Stream.Drain.run s (depth s)).play (Machine.streams _) m)
  | .tcpClient =>
    conclude Stream.events (fun acts => .ofSender (Stream.phaseAfter .idle acts))
      ((Stream.Sender.session s (depth s)).play (Machine.streams _) m)
  | .udpServer =>
    conclude Datagram.events (fun _ => .ofReflector)
      ((Datagram.Reflector.run s (depth s)).play Socketed.datagrams { machine := m })
  | .udpClient =>
    conclude Datagram.events (fun _ => .ofProber)
      ((Datagram.Prober.run s (depth s)).play Socketed.datagrams { machine := m })

/-- The lines of the events that a filter admits, without the blanks around them. A line break in a
field makes two lines. -/
def logLines (f : Filter) (events : List Event) : List String :=
  (events.filter f.admits).flatMap fun e =>
    (Text.pieces '\n' e.line.toList).map fun line => String.ofList (Text.trim line)

def breakdown : Nat := 101

/-- What shows of the process once it has its settings. Without a filter it breaks down before its
first event. -/
def outcome (override? : Option String) (s : Settings) (m : Machine) : Outcome :=
  match Filter.chosen? override? s.logLevel with
  | none => ⟨some breakdown, [], none⟩
  | some filter =>
    let (events, farewell) := perform s m
    ⟨farewell.map (·.code),
      logLines filter (opening s :: events ++ farewell.elim [] (·.events)),
      farewell.bind (·.report)⟩

/-- What shows of the process with these arguments on a machine. `read` gives the content of files,
`shown` is what a final report has of an error in one, and `override?` is what the variable for
filters holds. -/
def run (read : String → Except Cause String) (shown : String → FileError → String)
    (override? : Option String) (args : List String) (m : Machine) : Outcome :=
  match (settings (fun path => pure (read path)) shown args : Id _) with
  | .error stop => ⟨some stop.code, [], stop.report⟩
  | .ok s => outcome override? s m

end NetBench.Launch
