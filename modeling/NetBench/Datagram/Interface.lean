import NetBench.Event
import NetBench.Talk.Play

/-! What a role over datagrams may request; it has one socket. Times are in milliseconds. -/
namespace NetBench.Datagram

inductive Request where
  | bind (address : Endpoint)
  | send (data : List UInt8) (remote : Endpoint)
  | receive (room : Nat) (timeout : Option Nat)
  | close
  | pause (length : Nat)
  | note (e : Event)

/-- Sending gives a count of bytes. Receiving gives the bytes that the transport stored at the
front of the buffer, and their sender. -/
abbrev Request.Answer : Request → Type
  | .bind _ => Except Fault Unit
  | .send _ _ => Except Fault Nat
  | .receive _ _ => Except Fault (List UInt8 × Endpoint)
  | .close => Unit
  | .pause _ => Unit
  | .note _ => Unit

abbrev interface : Interface := ⟨Request, Request.Answer⟩

abbrev Program (α : Type) : Type := Talk interface α

/-! A request alone, as a program. -/

def bind (address : Endpoint) : Program (Except Fault Unit) := .ask (Request.bind address) .done

def send (data : List UInt8) (remote : Endpoint) : Program (Except Fault Nat) :=
  .ask (Request.send data remote) .done

def receive (room : Nat) (timeout : Option Nat) :
    Program (Except Fault (List UInt8 × Endpoint)) := .ask (Request.receive room timeout) .done

def close : Program Unit := .ask Request.close .done

def pause (length : Nat) : Program Unit := .ask (Request.pause length) .done

def note (e : Event) : Program Unit := .ask (Request.note e) .done

def events (acts : List (Act interface)) : List Event :=
  acts.filterMap fun x => match x.1 with
    | .note e => some e
    | _ => none

/-- A failed run, by the step that failed. Only a prober fails on sending. -/
inductive Failure where
  | address (why : Fault)
  | bind (why : Fault)
  | send (why : Fault)
  deriving DecidableEq, Repr

namespace Failure

def fault : Failure → Fault
  | .address why | .bind why | .send why => why

def message : Failure → String
  | .address why => "Invalid address: " ++ why.message
  | .bind why => "Error creating UDP sock: " ++ why.message
  | .send why => "Error sending message: " ++ why.message

def form : Failure → String
  | .address why => "Address(" ++ why.form ++ ")"
  | .bind why => "Bind(" ++ why.form ++ ")"
  | .send why => "Send(" ++ why.form ++ ")"

end Failure
end NetBench.Datagram
