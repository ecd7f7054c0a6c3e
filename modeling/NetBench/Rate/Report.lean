import NetBench.Decimal.Fixed

/-! Bytes moved over a measured time, and their rate. A megabit is 1024 * 1024 bits; times are
microseconds. Counts of bytes and times are 64-bit words, and wrap. -/
namespace NetBench.Rate
open Decimal

/-- A count of bytes after so many more. -/
def addBytes (count : UInt64) (bytes : Nat) : UInt64 := count + bytes.toUInt64

theorem addBytes_add (count : UInt64) (m n : Nat) :
    addBytes count (m + n) = addBytes (addBytes count m) n := by
  rw [addBytes, addBytes, addBytes, UInt64.add_assoc]
  exact congrArg (count + ·) (UInt64.ofNat_add m n)

@[simp] theorem addBytes_zero (count : UInt64) : addBytes count 0 = count := UInt64.add_zero count

@[simp] theorem zero_addBytes (bytes : Nat) : addBytes 0 bytes = bytes.toUInt64 := UInt64.zero_add _

/-- A count is exact as long as it does not wrap. -/
theorem toNat_addBytes {count : UInt64} {bytes : Nat} (h : count.toNat + bytes < UInt64.size) :
    (addBytes count bytes).toNat = count.toNat + bytes := by
  have hbytes : bytes.toUInt64.toNat = bytes :=
    UInt64.toNat_ofNat_of_lt' (Nat.lt_of_le_of_lt (Nat.le_add_left bytes _) h)
  rw [addBytes, UInt64.toNat_add, hbytes, Nat.mod_eq_of_lt h]

/-- What one window moved. -/
structure Report where
  bytes : UInt64
  elapsed : UInt64
  deriving DecidableEq, Repr

namespace Report

def seconds (r : Report) : Binary64 := (Binary64.ofNat r.elapsed.toNat).scale 1 1000000

/-- Megabits per second; zero for an empty window. The byte count and the time round first,
then their quotient. -/
def mbps (r : Report) : Binary64 :=
  if r.elapsed = 0 then .zero else ((Binary64.ofNat r.bytes.toNat).scale 8 (1024 * 1024)).div r.seconds

def rateText (r : Report) : String := fixed 4 r.mbps

def text (r : Report) : String :=
  toString r.bytes.toNat ++ " bytes in " ++ fixed 3 r.seconds ++ " s = " ++ r.rateText ++ " Mbps"

end Report
end NetBench.Rate
