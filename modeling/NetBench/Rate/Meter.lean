import NetBench.Rate.Report

/-! A meter that counts bytes and reports once per interval.
Its clock counts microseconds modulo 2 ^ 64, so a wrap of the clock does not show. -/
namespace NetBench.Rate

/-- An open window: its start on the clock and the bytes counted since. -/
structure Meter where
  interval : UInt64
  start : UInt64
  pending : UInt64
  deriving DecidableEq, Repr

namespace Meter

def new (interval now : UInt64) : Meter := ⟨interval, now, 0⟩

def record (m : Meter) (bytes : Nat) : Meter := { m with pending := addBytes m.pending bytes }

/-- Reports iff the window has lasted an interval; the next window then starts at this reading. -/
def poll (m : Meter) (now : UInt64) : Option Report × Meter :=
  if now - m.start < m.interval then (none, m)
  else (some ⟨m.pending, now - m.start⟩, ⟨m.interval, now, 0⟩)

/-- A poll leaves an open window as it is, or reports it and opens the next. -/
theorem poll_cases (m : Meter) (now : UInt64) :
    (m.poll now = (none, m) ∧ now - m.start < m.interval) ∨
      (m.poll now = (some ⟨m.pending, now - m.start⟩, ⟨m.interval, now, 0⟩) ∧
        m.interval ≤ now - m.start) := by
  unfold poll
  split
  · exact .inl ⟨rfl, ‹_›⟩
  · exact .inr ⟨rfl, UInt64.not_lt.mp ‹_›⟩

/-- No byte is lost: what a poll takes out of the window is what it reports. -/
theorem pending_poll (m : Meter) (now : UInt64) :
    ((m.poll now).1.elim 0 fun r => r.bytes.toNat) + (m.poll now).2.pending.toNat =
      m.pending.toNat := by
  rcases m.poll_cases now with ⟨hp, -⟩ | ⟨hp, -⟩ <;> simp [hp]

/-- A window is reported only when the interval has passed. -/
theorem interval_le_elapsed {m : Meter} {now : UInt64} {r : Report}
    (h : (m.poll now).1 = some r) : m.interval ≤ r.elapsed := by
  rcases m.poll_cases now with ⟨hp, -⟩ | ⟨hp, hle⟩
  · simp [hp] at h
  · rw [hp] at h
    cases h
    exact hle

end Meter
end NetBench.Rate
