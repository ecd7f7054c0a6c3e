import NetBench.Fault

/-! What a read of some bytes means. -/
namespace NetBench.Stream

/-- No bytes in a buffer with room are the end of the stream; an empty buffer says nothing. -/
def arrival (room count : Nat) : Except Fault Nat :=
  if count = 0 ∧ room ≠ 0 then .error .closed else .ok count

/-- With room in the buffer, a read that succeeds moves at least one byte. -/
theorem arrival_eq_ok_iff {room count n : Nat} (h : room ≠ 0) :
    arrival room count = .ok n ↔ n = count ∧ 0 < count := by
  unfold arrival
  split
  · rename_i hc
    simp [hc.1]
  · rename_i hc
    have : 0 < count := Nat.pos_of_ne_zero fun h0 => hc ⟨h0, h⟩
    simp [this, eq_comm]

@[simp] theorem arrival_zero (count : Nat) : arrival 0 count = .ok count := by simp [arrival]

/-- What comes of a read on a socket, where `size` counts the bytes in what was found. -/
def received {α : Type} (room : Nat) (size : α → Nat) : Except Cause α → Except Fault α
  | .ok found => (arrival room (size found)).map fun _ => found
  | .error cause => .error (.io cause)

end NetBench.Stream
