import Mathlib
import NetBench.Proofs.Settings.Layering
import NetBench.Proofs.Stream.Connection
import NetBench.Stream.Arrival

/-! Reading a connection to its end over a socket. The loop of a drain has no exit of its own: that
it ends with the stream rests on the buffer having room, which is what resolving the settings sees
to. -/
namespace NetBench.Stream

/-- What the operating system gives for the reads of a connection, one after the other: how many
bytes were read, where none are the end of the stream, or an error. What is `none` never comes. -/
abbrev Socket : Type := Nat → Option (Except Cause Nat)

namespace Socket
variable {Phase : Type}

/-- A connection over a socket, by the number of results that were taken. There are no others. -/
def answer (socket : Socket) : (r : Request Phase) → Nat → Option r.Answer × Nat
  | .read _ room _, i => ((socket i).map (received room id), i + 1)
  | .listen _ _, i => (none, i)
  | .accept _, i => (none, i)
  | .connect _, i => (none, i)
  | .write _ _, i => (none, i)
  | .disconnect _, i => (some (), i)
  | .clock, i => (some 0, i)
  | .note _, i => (some (), i)
  | .enter _, i => (some (), i)

def handler (socket : Socket) : Handler (interface Phase) Nat := ⟨socket.answer, fun _ => 0⟩

/-- The first results are these numbers of bytes, of which none is zero. -/
def Brings (socket : Socket) (counts : List Nat) : Prop :=
  ∀ i n, counts[i]? = some n → socket i = some (.ok n) ∧ 0 < n

/-- The stream ends with result number `k`, or breaks there: it is closed if nothing was read, and
what failed is passed on otherwise. -/
def Stops (socket : Socket) (k : Nat) (why : Fault) : Prop :=
  socket k = some (.ok 0) ∧ why = .closed ∨
    ∃ cause, socket k = some (.error cause) ∧ why = .io cause

theorem Stops.closed_iff {socket : Socket} {k : Nat} {why : Fault} (h : socket.Stops k why) :
    why = .closed ↔ socket k = some (.ok 0) := by
  rcases h with ⟨hr, rfl⟩ | ⟨cause, hr, rfl⟩ <;> simp [hr]

theorem Stops.ne_none {socket : Socket} {k : Nat} {why : Fault} (h : socket.Stops k why) :
    socket k ≠ none := by
  rcases h with ⟨hr, -⟩ | ⟨cause, hr, -⟩ <;> simp [hr]

theorem Brings.length_le {socket : Socket} {counts : List Nat} {k : Nat} {why : Fault}
    (hb : socket.Brings counts) (h : socket.Stops k why) : counts.length ≤ k := by
  by_contra hlt
  obtain ⟨hr, hn⟩ := hb k _ (List.getElem?_eq_getElem (Nat.lt_of_not_le hlt))
  rcases h with ⟨hr', -⟩ | ⟨cause, hr', -⟩
  · obtain h0 : _ = 0 := by simpa [hr] using hr'
    omega
  · simp [hr] at hr'

theorem brings_concat {socket : Socket} {counts : List Nat} {n : Nat} :
    socket.Brings (counts ++ [n]) ↔
      socket.Brings counts ∧ socket counts.length = some (.ok n) ∧ 0 < n := by
  constructor
  · intro h
    refine ⟨?_, h counts.length n (by simp)⟩
    intro i m hi
    exact h i m (List.getElem?_append_left (List.getElem?_eq_some_iff.mp hi).1 ▸ hi)
  · rintro ⟨h, hn⟩ i m hi
    rcases Nat.lt_trichotomy i counts.length with hlt | rfl | hgt
    · exact h i m (List.getElem?_append_left hlt ▸ hi)
    · obtain rfl : n = m := by simpa using hi
      exact hn
    · simp [List.getElem?_eq_none (l := counts ++ [n]) (i := i) (by simp; omega)] at hi

/-- The results bring bytes up to the first that does not, as far as one looks. -/
theorem exists_brings (socket : Socket) (depth : Nat) :
    ∃ counts, socket.Brings counts ∧ (counts.length = depth ∨ counts.length < depth ∧
      (socket counts.length = none ∨ ∃ why, socket.Stops counts.length why)) := by
  induction depth with
  | zero => exact ⟨[], fun _ _ h => by simp at h, .inl rfl⟩
  | succ depth ih =>
    obtain ⟨counts, hb, rfl | ⟨hlt, hend⟩⟩ := ih
    · cases hr : socket counts.length with
      | none => exact ⟨counts, hb, .inr ⟨by omega, .inl hr⟩⟩
      | some result =>
        cases result with
        | error cause => exact ⟨counts, hb, .inr ⟨by omega, .inr ⟨_, .inr ⟨cause, hr, rfl⟩⟩⟩⟩
        | ok n =>
          rcases Nat.eq_zero_or_pos n with rfl | hn
          · exact ⟨counts, hb, .inr ⟨by omega, .inr ⟨_, .inl ⟨hr, rfl⟩⟩⟩⟩
          · exact ⟨counts ++ [n], brings_concat.mpr ⟨hb, hr, hn⟩, .inl (by simp)⟩
    · exact ⟨counts, hb, .inr ⟨by omega, hend⟩⟩

end Socket

namespace Drain
open Talk Rate
variable {s : Settings} {socket : Socket} {conn depth i : Nat}

/-- How a drain goes over a socket, unfolded to `depth` reads. The reads move what the results bring
up to the first that brings nothing. If that one never comes the drain waits for it, and if it stops
the stream it stops the drain. The total is the sum of what the reads moved, in a count that wraps
at 2 ^ 64. -/
inductive Drained (s : Settings) (conn : Nat) (socket : Socket) (depth : Nat)
    (run : Run (interface Phase) Nat (UInt64 × Fault)) : Prop where
  | stopped (counts : List Nat) (total : UInt64) (why : Fault) (brings : socket.Brings counts)
      (sums : total.toNat = counts.sum % 2 ^ 64)
      (stops : socket.Stops counts.length why) (within : counts.length < depth)
      (closed : why = .closed ↔ socket counts.length = some (.ok 0))
      (acts : run.acts = reads s conn counts ++
        [⟨.read conn s.readBufferSize.toNat none, some (.error why)⟩,
          ⟨.note (.readFinished total), some ()⟩])
      (ending : run.ending = .returned (total, why))
  | waiting (counts : List Nat) (brings : socket.Brings counts) (waits : socket counts.length = none)
      (within : counts.length < depth)
      (acts : run.acts = reads s conn counts ++ [⟨.read conn s.readBufferSize.toNat none, none⟩])
      (ending : run.ending = .waiting)
  | unfinished (counts : List Nat) (brings : socket.Brings counts) (all : counts.length = depth)
      (acts : run.acts = reads s conn counts) (ending : run.ending = .unfinished)

private theorem play_step_moves {n : Nat} (hr : socket i = some (.ok n))
    (hn : s.readBufferSize.toNat = 0 ∨ 0 < n) (conn : Nat) (total : UInt64) :
    play socket.handler (step s conn total) i =
      ⟨[⟨.read conn s.readBufferSize.toNat none, some (.ok n), 0⟩],
        .returned (.inl (addBytes total n)), i + 1⟩ := by
  have ha : arrival s.readBufferSize.toNat n = .ok n := by
    by_cases hroom : s.readBufferSize.toNat = 0
    · rw [hroom, arrival_zero]
    · exact (arrival_eq_ok_iff hroom).mpr ⟨rfl, hn.resolve_left hroom⟩
  simp [step, read, play, Socket.handler, Socket.answer, hr, received, ha, Except.map]

private theorem play_step_stops {why : Fault} (hs : socket.Stops i why)
    (hroom : s.readBufferSize.toNat ≠ 0) (conn : Nat) (total : UInt64) :
    play socket.handler (step s conn total) i =
      ⟨[⟨.read conn s.readBufferSize.toNat none, some (.error why), 0⟩,
        ⟨.note (.readFinished total), some (), 0⟩], .returned (.inr (total, why)), i + 1⟩ := by
  rcases hs with ⟨hr, rfl⟩ | ⟨cause, hr, rfl⟩
  · have ha : arrival s.readBufferSize.toNat 0 = .error .closed := if_pos ⟨rfl, hroom⟩
    simp [step, read, note, play, Socket.handler, Socket.answer, hr, received, ha, Except.map]
  · simp [step, read, note, play, Socket.handler, Socket.answer, hr, received]

private theorem play_step_waits (hr : socket i = none) (s : Settings) (conn : Nat)
    (total : UInt64) :
    play socket.handler (step s conn total) i =
      ⟨[⟨.read conn s.readBufferSize.toNat none, none, 0⟩], .waiting, i + 1⟩ := by
  simp [step, read, play, Socket.handler, Socket.answer, hr]

private theorem play_loop_moves {counts : List Nat}
    (hm : ∀ i n, counts[i]? = some n → socket i = some (.ok n) ∧ (s.readBufferSize.toNat = 0 ∨ 0 < n))
    (conn depth : Nat) :
    let rest := play socket.handler (loop (step s conn) depth (addBytes 0 counts.sum)) counts.length
    (play socket.handler (loop (step s conn) (counts.length + depth) 0) 0).acts =
        reads s conn counts ++ rest.acts ∧
      (play socket.handler (loop (step s conn) (counts.length + depth) 0) 0).ending = rest.ending := by
  induction counts using List.reverseRecOn generalizing depth with
  | nil => simp [reads]
  | append_singleton front n ih =>
    obtain ⟨hr, hn⟩ := hm front.length n (by simp)
    obtain ⟨hacts, hending⟩ := ih
      (fun i m hi => hm i m (List.getElem?_append_left (List.getElem?_eq_some_iff.mp hi).1 ▸ hi))
      (depth + 1)
    have hstep := play_step_moves hr hn conn (addBytes 0 front.sum)
    rw [play_loop_inl (by rw [hstep]), hstep] at hacts hending
    have hlen : (front ++ [n]).length + depth = front.length + (depth + 1) := by
      rw [List.length_append, List.length_singleton, Nat.add_assoc, Nat.add_comm 1]
    rw [hlen, List.sum_append, List.sum_singleton, addBytes_add, List.length_append,
      List.length_singleton]
    refine ⟨hacts.trans ?_, hending⟩
    simp [Run.acts, reads, Exchange.act]

private theorem drained (hroom : s.readBufferSize.toNat ≠ 0) (socket : Socket) (conn depth : Nat) :
    Drained s conn socket depth (play socket.handler (drain s conn depth) 0) := by
  obtain ⟨counts, hb, hend⟩ := socket.exists_brings depth
  have hmoves := play_loop_moves (s := s) (fun i n hi => (hb i n hi).imp_right .inr) conn
  rcases hend with rfl | ⟨hlt, hend⟩
  · obtain ⟨hacts, hending⟩ := hmoves 0
    exact .unfinished counts hb rfl (hacts.trans (List.append_nil _)) hending
  obtain ⟨more, rfl⟩ : ∃ more, depth = counts.length + (more + 1) :=
    ⟨depth - counts.length - 1, by omega⟩
  obtain ⟨hacts, hending⟩ := hmoves (more + 1)
  rcases hend with hw | ⟨why, hs⟩
  · have hstep := play_step_waits hw s conn (addBytes 0 counts.sum)
    rw [loop, play_bind, hstep] at hacts hending
    exact .waiting counts hb hw hlt hacts hending
  · have hstep := play_step_stops hs hroom conn (addBytes 0 counts.sum)
    rw [play_loop_inr (by rw [hstep]), hstep] at hacts hending
    have hsums : (addBytes 0 counts.sum).toNat = counts.sum % 2 ^ 64 := by
      rw [zero_addBytes]
      exact UInt64.toNat_ofNat'
    exact .stopped counts _ why hb hsums hs hlt hs.closed_iff hacts hending

variable {run : Run (interface Phase) Nat (UInt64 × Fault)}

private theorem given_drained (h : Drained s conn socket depth run) :
    ∃ counts, socket.Brings counts ∧
      (given run.acts = counts.map (fun n => some (.ok n)) ∧ counts.length = depth ∨
        ∃ last, given run.acts = counts.map (fun n => some (.ok n)) ++ [last] ∧
          (∀ n, last ≠ some (.ok n)) ∧
          (run.ending = .waiting ∧ socket counts.length = none ∨
            ∃ result, run.ending = .returned result)) := by
  cases h with
  | stopped counts total why brings _ _ _ _ acts ending =>
    refine ⟨counts, brings, .inr ⟨some (.error why), ?_, nofun, .inr ⟨_, ending⟩⟩⟩
    rw [acts, given_append_reads]
    rfl
  | waiting counts brings waits _ acts ending =>
    refine ⟨counts, brings, .inr ⟨none, ?_, nofun, .inl ⟨ending, waits⟩⟩⟩
    rw [acts, given_append_reads]
    rfl
  | unfinished counts brings all acts ending =>
    refine ⟨counts, brings, .inl ⟨?_, all⟩⟩
    rw [acts, ← List.append_nil (reads s conn counts), given_append_reads]
    exact List.append_nil _

/-- Nothing is read behind the end of a stream, and what comes before it is all that can hold a
drain up. -/
private theorem Drained.ends (h : Drained s conn socket depth run) {k : Nat} {why : Fault}
    (hs : socket.Stops k why) : (given run.acts).length ≤ k + 1 ∧
      (k < depth → run.ending ≠ .unfinished ∧
        ((∀ i < k, socket i ≠ none) → ∃ result, run.ending = .returned result)) := by
  obtain ⟨counts, hb, hgiven⟩ := given_drained h
  have hk := hb.length_le hs
  rcases hgiven with ⟨hgiven, hall⟩ | ⟨last, hgiven, -, hending⟩
  · rw [hgiven, List.length_map]
    exact ⟨by omega, fun hlt => absurd hlt (by omega)⟩
  · rw [hgiven, List.length_append, List.length_map, List.length_singleton]
    refine ⟨by omega, fun _ => ?_⟩
    rcases hending with ⟨hending, hwaits⟩ | ⟨result, hending⟩
    · refine ⟨by simp [hending], fun hcome => ?_⟩
      rcases Nat.lt_or_eq_of_le hk with hlt | heq
      · exact absurd hwaits (hcome _ hlt)
      · exact absurd (heq ▸ hwaits) hs.ne_none
    · exact ⟨by simp [hending], fun _ => ⟨result, hending⟩⟩

end Drain
end NetBench.Stream
