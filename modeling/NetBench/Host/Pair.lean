import NetBench.Fault

/-! One end of a pair of connected sockets on one machine. What is under way to it stands in parcels
that take up room until they are read to their ends; a write beyond that room is taken in part. -/
namespace NetBench.Host

/-- Bytes sent together, as far as they were not read yet, and the room that they take up. -/
structure Parcel where
  unread : List UInt8
  room : Nat
  deriving DecidableEq, Repr

namespace Parcel

def page : Nat := 4096

/-- How many bytes fit on a page beside its bookkeeping. -/
def headRoom : Nat := page - 320

/-- The most bytes of one parcel: a page for its head, and eight more. -/
def longest : Nat := headRoom + 8 * page

theorem longest_pos : 0 < longest := by decide

/-- The room for `n` bytes: whole pages for what does not fit into the head, a head whose size with
its bookkeeping is a power of two from 512 on, and a record of 256 bytes. -/
def roomFor (n : Nat) : Nat :=
  let pages := (n - headRoom + (page - 1)) / page
  let head := n - pages * page + 320
  let block := ([512, 1024, 2048].find? (head ≤ ·)).getD page
  pages * page + block + 256

/-- The room of one direction of a pair. A parcel is taken while it is not used up. -/
def capacity : Nat := 212992

/-- Packs bytes into parcels beside others that take up `used`, as far as there is room. -/
def pack (used : Nat) (data : List UInt8) : List Parcel :=
  if data = [] ∨ capacity ≤ used then []
  else
    let front := data.take longest
    ⟨front, roomFor front.length⟩ :: pack (used + roomFor front.length) (data.drop longest)
termination_by data.length
decreasing_by
  have h : 0 < data.length := List.length_pos_iff.mpr fun h => by simp [h] at *
  exact List.length_drop ▸ Nat.sub_lt h longest_pos

def rooms (ps : List Parcel) : Nat := ps.foldl (fun taken p => taken + p.room) 0

def bytes (ps : List Parcel) : List UInt8 := ps.flatMap (·.unread)

def unpack : (n : Nat) → List Parcel → List UInt8 × List Parcel
  | _, [] => ([], [])
  | n, p :: ps =>
    let (front, back) := p.unread.splitAt n
    if back = [] then
      let (data, rest) := unpack (n - front.length) ps
      (front ++ data, rest)
    else (front, { p with unread := back } :: ps)

end Parcel

/-- The parcels that have arrived; whether the peer left with unread bytes of ours, which is
reported once; and whether the peer has left. -/
structure End where
  parcels : List Parcel := []
  reset : Bool := false
  peerGone : Bool := false
  deriving DecidableEq, Repr

namespace End

/-- What a read finds: bytes first, then a reset, then the end of the stream, which has no bytes.
There may be nothing to find yet, also for a read without room. -/
def read (e : End) (room : Nat) : Option (Except OsError (List UInt8)) × End :=
  if e.parcels ≠ [] then
    let (data, parcels) := Parcel.unpack room e.parcels
    (some (.ok data), { e with parcels })
  else if e.reset then (some (.error .connectionReset), { e with reset := false })
  else if e.peerGone then (some (.ok []), e)
  else (none, e)

/-- How many bytes come in, and the end after that. -/
def deliver (e : End) (data : List UInt8) : Nat × End :=
  let more := Parcel.pack (Parcel.rooms e.parcels) data
  ((Parcel.bytes more).length, { e with parcels := e.parcels ++ more })

/-- The end after its peer has left; `unread` tells whether it left bytes of ours unread. -/
def abandon (e : End) (unread : Bool) : End :=
  { e with peerGone := true, reset := e.reset || unread }

end End
end NetBench.Host
