import NetBench.Event
import NetBench.Talk.Play

/-! What a role over connections may request. Every request is awaited before the next is made.
Timeouts are in milliseconds; `none` waits for ever. -/
namespace NetBench.Stream

/-- `Phase` is where a role stands in its own cycle; entering a phase is a request too, so that the
record of a run shows the phase at every point. -/
inductive Request (Phase : Type) where
  | listen (address : Endpoint) (depth : UInt32)
  | accept (timeout : Option Nat)
  | read (conn room : Nat) (timeout : Option Nat)
  | write (conn : Nat) (data : List UInt8)
  | connect (remote : Endpoint)
  | disconnect (conn : Nat)
  | clock
  | note (e : Event)
  | enter (phase : Phase)

/-- Accepting and connecting give a connection; reading and writing give a count of bytes. -/
abbrev Request.Answer {Phase : Type} : Request Phase → Type
  | .listen _ _ => Except Fault Unit
  | .accept _ => Except Fault Nat
  | .read _ _ _ => Except Fault Nat
  | .write _ _ => Except Fault Nat
  | .connect _ => Except Fault Nat
  | .disconnect _ => Unit
  | .clock => UInt64
  | .note _ => Unit
  | .enter _ => Unit

abbrev interface (Phase : Type) : Interface := ⟨Request Phase, Request.Answer⟩

variable {Phase : Type}

abbrev Program (Phase α : Type) : Type := Talk (interface Phase) α

/-! A request alone, as a program. -/

def listen (address : Endpoint) (depth : UInt32) : Program Phase (Except Fault Unit) :=
  .ask (Request.listen address depth) .done

def accept (timeout : Option Nat) : Program Phase (Except Fault Nat) :=
  .ask (Request.accept timeout) .done

def read (conn room : Nat) (timeout : Option Nat) : Program Phase (Except Fault Nat) :=
  .ask (Request.read conn room timeout) .done

def write (conn : Nat) (data : List UInt8) : Program Phase (Except Fault Nat) :=
  .ask (Request.write conn data) .done

def connect (remote : Endpoint) : Program Phase (Except Fault Nat) :=
  .ask (Request.connect remote) .done

def disconnect (conn : Nat) : Program Phase Unit := .ask (Request.disconnect conn) .done

def clock : Program Phase UInt64 := .ask Request.clock .done

def note (e : Event) : Program Phase Unit := .ask (Request.note e) .done

def enter (phase : Phase) : Program Phase Unit := .ask (Request.enter phase) .done

@[simp] def Request.phaseFrom (p : Phase) : Request Phase → Phase
  | .enter q => q
  | _ => p

@[simp] def Request.event? : Request Phase → Option Event
  | .note e => some e
  | _ => none

/-- The phase after a record that began in phase `start`. -/
def phaseAfter (start : Phase) (acts : List (Act (interface Phase))) : Phase :=
  acts.foldl (fun p x => x.1.phaseFrom p) start

def events (acts : List (Act (interface Phase))) : List Event := acts.filterMap fun x => x.1.event?

end NetBench.Stream
