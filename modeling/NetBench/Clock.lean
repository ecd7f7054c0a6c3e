/-! Clocks for runs whose time is known: a reading depends on how many came before it and on the
time of the run. Readings are microseconds modulo 2 ^ 64. No wait is longer than thirty years. -/
namespace NetBench

/-- What the clock shows at its reading number `index`, counted from zero, made `ms` milliseconds
into the run. -/
abbrev Clock : Type := (index ms : Nat) → UInt64

namespace Clock

def longestWait : Nat := 30 * 365 * 24 * 60 * 60 * 1000

def lasting (ms : Nat) : Nat := min ms longestWait

def stepping (start step : UInt64) : Clock := fun index _ => start + step * index.toUInt64

/-- Shows the given readings, and the last of them for ever. -/
def ofReadings (readings : List UInt64) : Clock := fun index _ =>
  (readings[index]?.or readings.getLast?).getD 0

def running : Clock := fun _ ms => (ms * 1000).toUInt64

def shifted (clock : Clock) (c : UInt64) : Clock := fun index ms => clock index ms + c

def readings (clock : Clock) (n : Nat) : List UInt64 :=
  (List.range n).map fun index => clock index 0

end Clock
end NetBench
