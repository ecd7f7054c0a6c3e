import NetBench.Clock
import NetBench.Fault

/-! Scripts: for one kind of operation, what its calls will give, in order. -/
namespace NetBench.Script

/-- What one call gives, after a delay in milliseconds. A reply of `none` never comes. -/
structure Cue (α : Type) where
  delay : Nat
  reply : Option (Except Fault α)

variable {α : Type}

def Cue.lasting (cue : Cue α) : Nat := Clock.lasting cue.delay

def Cue.now (reply : Except Fault α) : Cue α := ⟨0, some reply⟩

def Cue.never : Cue α := ⟨0, none⟩

/-- A cue `n` times over, each delayed further. -/
def Cue.times (n delay : Nat) (cue : Cue α) : List (Cue α) :=
  List.replicate n { cue with delay := delay + cue.delay }

/-- The next cue and the script after it. A script that is used up gives `fallback` for ever. -/
def next (fallback : Cue α) : List (Cue α) → Cue α × List (Cue α)
  | [] => (fallback, [])
  | cue :: rest => (cue, rest)

/-- How many bytes a call moves: a number, or all that it could. -/
inductive Amount where
  | count (n : Nat)
  | full
  deriving DecidableEq, Repr

/-- Out of `room`; a number is taken as it stands. -/
def Amount.of (room : Nat) : Amount → Nat
  | .count n => n
  | .full => room

/-- Out of `room`, and no more than that. -/
def Amount.within (room : Nat) : Amount → Nat
  | .count n => min n room
  | .full => room

end NetBench.Script
