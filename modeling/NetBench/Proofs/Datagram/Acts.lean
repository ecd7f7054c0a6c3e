import NetBench.Datagram.Interface
import NetBench.Proofs.Talk.Record
import NetBench.Script.Datagrams

/-! Records of roles over datagrams: the calls on the transport in them, and what their receives
gave. -/
namespace NetBench.Datagram

/-- Whether a request is a call on the transport. Waiting and the log are the role's own. -/
def Request.isCall : Request → Bool
  | .pause _ | .note _ => false
  | _ => true

/-- The calls of a record, with what they gave. -/
def calls (acts : List (Act interface)) : List (Act interface) := acts.filter fun x => x.1.isCall

@[simp] def hearing : Act interface → Option (Option (Except Fault (List UInt8 × Endpoint)))
  | ⟨.receive _ _, answer⟩ => some answer
  | _ => none

def hearings (acts : List (Act interface)) : List (Option (Except Fault (List UInt8 × Endpoint))) :=
  acts.filterMap hearing

/-- What is the role's own never waits. Of the transport, nothing is asked. -/
def Prompt (x : Act interface) : Prop := x.1.isCall = false → x.2 ≠ none

/-- A receive gives no more than it has room for. -/
def Fits : Act interface → Prop
  | ⟨.receive room _, some (.ok got)⟩ => got.1.length ≤ room
  | _ => True

theorem prompt_script : Script.Datagrams.handler.Within Prompt := by
  intro r w hr
  cases r with
  | pause | note => exact Option.some_ne_none _
  | _ => cases hr

theorem fits_script : Script.Datagrams.handler.Within Fits := by
  intro r w
  cases r with
  | receive room timeout =>
    simp only [Script.Datagrams.handler, Script.Datagrams.answer]
    match (Script.next .never w.receives).1.reply with
    | none | some (.error _) => trivial
    | some (.ok (data, peer)) => exact List.length_take_le room data
  | _ => trivial

end NetBench.Datagram
