/-! A receive buffer of fixed size, zero at first, that every datagram overwrites from the front. -/
namespace NetBench.Datagram

/-- A buffer by the bytes up to the last one ever written; those behind are zero. -/
structure Buffer where
  size : Nat
  written : List UInt8 := []
  fits : written.length ≤ size := by exact Nat.zero_le _

namespace Buffer

def blank (size : Nat) : Buffer := ⟨size, [], Nat.zero_le size⟩

def toList (b : Buffer) : List UInt8 := b.written ++ List.replicate (b.size - b.written.length) 0

/-- The buffer after bytes were stored at its front; what it held further back stays. -/
def store (data : List UInt8) (b : Buffer) : Buffer where
  size := b.size
  written := data.take b.size ++ b.written.drop data.length
  fits := by
    have := b.fits
    simp only [List.length_append, List.length_take, List.length_drop]
    omega

def front (b : Buffer) (n : Nat) : List UInt8 :=
  b.written.take n ++
    List.replicate (min (n - b.written.length) (b.size - b.written.length)) 0

@[simp] theorem length_toList (b : Buffer) : b.toList.length = b.size := by
  have := b.fits
  simp only [toList, List.length_append, List.length_replicate]
  omega

@[simp] theorem size_store (data : List UInt8) (b : Buffer) : (b.store data).size = b.size := rfl

theorem toList_store (data : List UInt8) (b : Buffer) :
    (b.store data).toList = data.take b.size ++ b.toList.drop data.length := by
  have := b.fits
  simp only [toList, store, List.append_assoc, List.drop_append, List.drop_replicate,
    List.length_append, List.length_take, List.length_drop]
  congr 3
  omega

theorem front_eq_take (b : Buffer) (n : Nat) : b.front n = b.toList.take n := by
  simp [front, toList, List.take_append, List.take_replicate]

/-- The front of the buffer is the datagram, with nothing of an earlier one in it. -/
theorem front_store {data : List UInt8} {b : Buffer} (h : data.length ≤ b.size) :
    (b.store data).front data.length = data := by
  rw [front_eq_take, toList_store]
  simp [List.take_of_length_le h]

end Buffer
end NetBench.Datagram
