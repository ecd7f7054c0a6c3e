import NetBench.Datagram.Interface
import NetBench.Proofs.Talk.Record

/-! A network between two programs over datagrams. One end runs against it; the other is part of
it, kept as the rest of its program, and goes on whenever a datagram reaches it. Nothing overtakes
anything, but datagrams get lost. -/
namespace NetBench.Datagram
open Talk

/-- What becomes of the datagram that the near end sends in a round, and of the replies to it. -/
inductive Fate where
  | delivered
  | requestLost
  | replyLost
  deriving DecidableEq, Repr

/-- The answer to what never fails or waits here: everything but receiving. -/
@[simp] def unhindered : (r : Request) → Option r.Answer
  | .bind _ => some (.ok ())
  | .send data _ => some (.ok data.length)
  | .receive _ _ => none
  | .close => some ()
  | .pause _ => some ()
  | .note _ => some ()

/-- A program run until it waits for a datagram: its acts, and the rest of it. -/
def settle : Program Failure → List (Act interface) × Program Failure
  | .done a => ([], .done a)
  | .rest => ([], .rest)
  | .ask r next =>
    match unhindered r with
    | none => ([], .ask r next)
    | some a => (⟨r, some a⟩ :: (settle (next a)).1, (settle (next a)).2)

@[simp] def sending : Act interface → Option (List UInt8 × Endpoint)
  | ⟨.send data peer, _⟩ => some (data, peer)
  | _ => none

@[simp] def receiving : Act interface → Option (List UInt8 × Endpoint)
  | ⟨.receive _ _, some (.ok got)⟩ => some got
  | _ => none

def sends (acts : List (Act interface)) : List (List UInt8 × Endpoint) := acts.filterMap sending

def receives (acts : List (Act interface)) : List (List UInt8 × Endpoint) :=
  acts.filterMap receiving

/-- The far end's record and what is left of its program, the replies on their way to the near end,
and the number of rounds that are over. -/
structure Network where
  record : List (Act interface)
  left : Program Failure
  replies : List (List UInt8)
  round : Nat := 0

namespace Network

def start (far : Program Failure) : Network where
  record := (settle far).1
  left := (settle far).2
  replies := []

/-- A datagram reaches the far end, cut to the room for it; it is lost if the far end does not
wait. Of what the far end sends then, what goes to `near` is on its way, unless `lost`. -/
def deliver (near : Endpoint) (lost : Bool) (data : List UInt8) (w : Network) : Network :=
  match w.left with
  | .ask (.receive room timeout) next =>
    let got := (data.take room, near)
    let run := settle (next (.ok got))
    let replies := (sends run.1).filterMap fun (reply, peer) => if peer = near then some reply else none
    { w with
      record := w.record ++ ⟨.receive room timeout, some (.ok got)⟩ :: run.1
      left := run.2
      replies := w.replies ++ if lost then [] else replies }
  | _ => w

/-- The near end sends a datagram, and its fate befalls it. -/
def carry (fate : Fate) (near : Endpoint) (data : List UInt8) (w : Network) : Network :=
  match fate with
  | .delivered => w.deliver near false data
  | .requestLost => w
  | .replyLost => w.deliver near true data

/-- The answer to a request of the near end. What it sends elsewhere than to `far` is lost. Each of
its receives ends a round: it gets the first reply there is, cut to the room for it, or times out. -/
def answer (fate : Nat → Fate) (near far : Endpoint) :
    (r : Request) → Network → Option r.Answer × Network
  | .send data remote, w =>
    (some (.ok data.length), if remote = far then w.carry (fate w.round) near data else w)
  | .receive room _, w =>
    match w.replies with
    | [] => (some (.error .timedOut), { w with round := w.round + 1 })
    | data :: replies => (some (.ok (data.take room, far)), { w with replies, round := w.round + 1 })
  | .bind _, w => (some (.ok ()), w)
  | .close, w => (some (), w)
  | .pause _, w => (some (), w)
  | .note _, w => (some (), w)

def handler (fate : Nat → Fate) (near far : Endpoint) : Handler interface Network :=
  ⟨answer fate near far, fun _ => 0⟩

/-- Whatever the far end goes on to record, its whole program may record after what it recorded so
far. -/
def Faithful (far : Program Failure) (w : Network) : Prop :=
  ∀ acts ending, Records (fun _ => True) w.left acts ending →
    Records (fun _ => True) far (w.record ++ acts) ending

variable {far : Program Failure} {w : Network}

private theorem records_settle {t : Program Failure} {acts : List (Act interface)}
    {ending : Ending Failure} (h : Records (fun _ => True) (settle t).2 acts ending) :
    Records (fun _ => True) t ((settle t).1 ++ acts) ending := by
  induction t with
  | done a => exact h
  | rest => exact h
  | ask r next ih =>
    unfold settle at h ⊢
    cases ha : unhindered r with
    | none =>
      rw [ha] at h
      exact h
    | some a =>
      rw [ha] at h
      exact .answered trivial (ih a h)

theorem faithful_start (far : Program Failure) : Faithful far (start far) :=
  fun _ _ => records_settle

private theorem faithful_deliver (near : Endpoint) (lost : Bool) (data : List UInt8)
    (h : Faithful far w) : Faithful far (w.deliver near lost data) := by
  unfold deliver
  split
  · rename_i room timeout next hleft
    intro acts ending hr
    have hgot := Records.answered (r := Request.receive room timeout) trivial (records_settle hr)
    have hfar := h _ _ (hleft ▸ hgot)
    rwa [List.append_assoc]
  · exact h

private theorem faithful_carry (fate : Fate) (near : Endpoint) (data : List UInt8)
    (h : Faithful far w) : Faithful far (w.carry fate near data) := by
  cases fate with
  | delivered => exact faithful_deliver near false data h
  | requestLost => exact h
  | replyLost => exact faithful_deliver near true data h

private theorem faithful_answer (fate : Nat → Fate) (near peer : Endpoint) (r : Request)
    (h : Faithful far w) : Faithful far (answer fate near peer r w).2 := by
  cases r with
  | send data remote =>
    simp only [answer]
    split
    · exact faithful_carry (fate w.round) near data h
    · exact h
  | receive room timeout =>
    simp only [answer]
    split <;> exact h
  | _ => exact h

/-- Whatever the near end does, the far end runs its own program. -/
theorem faithful_play (fate : Nat → Fate) (near peer : Endpoint) {α : Type} (t : Program α)
    (h : Faithful far w) : Faithful far (play (handler fate near peer) t w).world := by
  induction t generalizing w with
  | done a => exact h
  | rest => exact h
  | ask r next ih =>
    have hr := faithful_answer fate near peer r h
    unfold play
    cases ha : (handler fate near peer).answer r w with
    | mk answer w' =>
      obtain rfl : (Network.answer fate near peer r w).2 = w' := congrArg Prod.snd ha
      cases answer with
      | none => exact hr
      | some a => exact ih a hr

end Network
end NetBench.Datagram
