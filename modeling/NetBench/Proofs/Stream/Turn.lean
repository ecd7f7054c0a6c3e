import NetBench.Stream.Sender

/-! A turn of the stream in its parts: a reading, a report if it is time for one, and a write. -/
namespace NetBench.Stream.Sender
open Rate

def announce (report? : Option Report) : Program Phase Unit :=
  match report? with
  | some report => note (.sendSpeed report)
  | none => pure ()

/-- Writes once, with `total` bytes taken before and the window as it is open. -/
def push (s : Settings) (data : List UInt8) (conn : Nat) (total : UInt64) (meter : Meter) :
    Program Phase (Progress ⊕ Except Failure Nat) := do
  match ← write conn data with
  | .error why =>
    note (.writeFailed total meter.pending why)
    return .inr (.error (.write why))
  | .ok taken =>
    let total := addBytes total taken
    match s.maxBytes with
    | some limit =>
      if limit ≤ total then
        note (.limitReached total)
        return .inr (.ok taken)
      else return .inl ⟨meter.record taken, total⟩
    | none => return .inl ⟨meter.record taken, total⟩

theorem step_eq (s : Settings) (data : List UInt8) (conn : Nat) (p : Progress) :
    step s data conn p = clock >>= fun now => announce (p.meter.poll now).1 >>= fun _ =>
      push s data conn p.total (p.meter.poll now).2 := by
  unfold step
  congr 1
  funext now
  cases p.meter.poll now with
  | mk report? meter => cases report? <;> rfl

end NetBench.Stream.Sender
