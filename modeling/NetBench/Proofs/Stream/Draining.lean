import Mathlib
import NetBench.Proofs.Stream.Acts
import NetBench.Stream.Drain

/-! The record of a drain, act by act: one visit after the other, of which only the last may break
off. -/
namespace NetBench.Stream.Drain
open Talk Rate

/-- What comes of one accept: nothing, or a connection that is read to its end, with the clock's
readings before and after and the bytes that each read moved. -/
inductive Visit where
  | refused (why : Fault)
  | served (conn : Nat) (started ended : UInt64) (counts : List Nat) (why : Fault)

def reads (s : Settings) (conn : Nat) (counts : List Nat) : List (Act (interface Phase)) :=
  counts.map fun n => ⟨.read conn s.readBufferSize.toNat none, some (.ok n)⟩

def welcome (conn : Nat) (started : UInt64) : List (Act (interface Phase)) :=
  [⟨.enter .accepting, some ()⟩, ⟨.accept none, some (.ok conn)⟩, ⟨.enter .draining, some ()⟩,
    ⟨.note .reading, some ()⟩, ⟨.clock, some started⟩]

def parting (s : Settings) (conn : Nat) (received started ended : UInt64) (why : Fault) :
    List (Act (interface Phase)) :=
  [⟨.read conn s.readBufferSize.toNat none, some (.error why)⟩,
    ⟨.note (.readFinished received), some ()⟩, ⟨.clock, some ended⟩, ⟨.disconnect conn, some ()⟩,
    ⟨.note (.drained ⟨received, ended - started⟩ why), some ()⟩]

def Visit.acts (s : Settings) : Visit → List (Act (interface Phase))
  | .refused why => [⟨.enter .accepting, some ()⟩, ⟨.accept none, some (.error why)⟩,
      ⟨.note (.acceptFailed why), some ()⟩]
  | .served conn started ended counts why => welcome conn started ++ reads s conn counts ++
      parting s conn counts.sum.toUInt64 started ended why

/-- The record of a visit that outlasts an unfolding to `depth` reads. -/
def Endless (s : Settings) (depth : Nat) (acts : List (Act (interface Phase))) : Prop :=
  ∃ conn started counts, counts.length = depth ∧ acts = welcome conn started ++ reads s conn counts

variable {s : Settings} {conn depth : Nat} {acts : List (Act (interface Phase))}

private theorem records_step {received : UInt64} {ending : Ending (UInt64 ⊕ UInt64 × Fault)}
    (h : Records Prompt (step s conn received) acts ending) :
    (acts = [⟨.read conn s.readBufferSize.toNat none, none⟩] ∧ ending = .waiting) ∨
      (∃ n, acts = [⟨.read conn s.readBufferSize.toNat none, some (.ok n)⟩] ∧
        ending = .returned (.inl (addBytes received n))) ∨
      ∃ why, acts = [⟨.read conn s.readBufferSize.toNat none, some (.error why)⟩,
          ⟨.note (.readFinished received), some ()⟩] ∧ ending = .returned (.inr (received, why)) := by
  rcases records_call h with ⟨rfl, rfl⟩ | ⟨result, _, rfl, hr⟩
  · exact .inl ⟨rfl, rfl⟩
  change Except Fault Nat at result
  cases result with
  | ok n =>
    obtain ⟨rfl, rfl⟩ := records_done_iff.mp hr
    exact .inr (.inl ⟨n, rfl, rfl⟩)
  | error why =>
    obtain ⟨_, _, rfl, hd⟩ := records_own rfl hr
    obtain ⟨rfl, rfl⟩ := records_done_iff.mp hd
    exact .inr (.inr ⟨why, rfl, rfl⟩)

/-- The record of reading a connection. -/
theorem records_drain {received : UInt64} {ending : Ending (UInt64 × Fault)}
    (h : Records Prompt (loop (step s conn) depth received) acts ending) :
    ∃ counts, (counts.length = depth ∧ acts = reads s conn counts ∧ ending = .unfinished) ∨
      (acts = reads s conn counts ++ [⟨.read conn s.readBufferSize.toNat none, none⟩] ∧
        ending = .waiting) ∨
      ∃ why, acts = reads s conn counts ++
          [⟨.read conn s.readBufferSize.toNat none, some (.error why)⟩,
            ⟨.note (.readFinished (addBytes received counts.sum)), some ()⟩] ∧
        ending = .returned (addBytes received counts.sum, why) := by
  induction depth generalizing received acts with
  | zero =>
    obtain ⟨rfl, rfl⟩ := records_rest_iff.mp h
    exact ⟨[], .inl ⟨rfl, rfl, rfl⟩⟩
  | succ depth ih =>
    rcases records_loop h with ⟨received', front, back, rfl, hf, hb⟩ | hlast
    · rcases records_step hf with ⟨_, he⟩ | ⟨n, rfl, he⟩ | ⟨_, _, he⟩
      · cases he
      · obtain rfl : received' = addBytes received n := by simpa using he
        rcases ih hb with ⟨counts, ⟨rfl, rfl, rfl⟩ | ⟨rfl, rfl⟩ | ⟨why, rfl, rfl⟩⟩
        · exact ⟨n :: counts, .inl ⟨rfl, rfl, rfl⟩⟩
        · exact ⟨n :: counts, .inr (.inl ⟨rfl, rfl⟩)⟩
        · refine ⟨n :: counts, .inr (.inr ⟨why, ?_, ?_⟩)⟩
          · simp [reads, addBytes_add]
          · simp [addBytes_add]
      · simp at he
    · rcases records_step hlast with ⟨rfl, he⟩ | ⟨n, _, he⟩ | ⟨why, rfl, he⟩
      · obtain rfl := Ending.map_eq_waiting.mp he
        exact ⟨[], .inr (.inl ⟨rfl, rfl⟩)⟩
      · simp at he
      · obtain rfl : ending = .returned (received, why) := by simpa using he
        exact ⟨[], .inr (.inr ⟨why, by simp [reads], by simp⟩)⟩

/-- A visit is made in full, or breaks off at a call, or outlasts the unfolding. -/
theorem records_serveOne {ending : Ending Unit}
    (h : Records Prompt (serveOne s depth) acts ending) :
    ∃ v : Visit, (acts = v.acts s ∧ ending = .returned ()) ∨
      (StallsIn acts (v.acts s) ∧ ending = .waiting) ∨
      (Endless s depth acts ∧ ending = .unfinished) := by
  obtain ⟨_, _, rfl, ha⟩ := records_own rfl h
  rcases records_call ha with ⟨rfl, rfl⟩ | ⟨result, _, rfl, hr⟩
  · exact ⟨.refused .closed, .inr (.inl ⟨⟨[_], _, _, rfl, rfl⟩, rfl⟩)⟩
  change Except Fault Nat at result
  cases result with
  | error why =>
    obtain ⟨_, _, rfl, hd⟩ := records_own rfl hr
    obtain ⟨rfl, rfl⟩ := records_done_iff.mp hd
    exact ⟨.refused why, .inl ⟨rfl, rfl⟩⟩
  | ok conn =>
    obtain ⟨_, _, rfl, hn⟩ := records_own rfl hr
    obtain ⟨_, _, rfl, hc⟩ := records_own rfl hn
    obtain ⟨started, _, rfl, hb⟩ := records_own rfl hc
    rcases records_bind hb with ⟨⟨received, why⟩, front, back, rfl, hf, hl⟩ | ⟨hw, rfl⟩ | ⟨hu, rfl⟩
    · rcases records_drain hf with ⟨counts, ⟨_, _, he⟩ | ⟨_, he⟩ | ⟨why', rfl, he⟩⟩
      · cases he
      · cases he
      · obtain ⟨rfl, rfl⟩ : received = counts.sum.toUInt64 ∧ why = why' := by simpa using he
        obtain ⟨ended, _, rfl, hd⟩ := records_own rfl hl
        rw [zero_addBytes, List.append_assoc]
        rcases records_call hd with ⟨rfl, rfl⟩ | ⟨_, _, rfl, hlog⟩
        · refine ⟨.served conn started ended counts why, .inr (.inl ⟨?_, rfl⟩)⟩
          have hcut : StallsIn _ (parting s conn counts.sum.toUInt64 started ended why) :=
            ⟨[_, _, _], ⟨.disconnect conn, some ()⟩, [_], rfl, rfl⟩
          have h := hcut.append (welcome conn started ++ reads s conn counts)
          rwa [List.append_assoc] at h
        · obtain ⟨_, _, rfl, hend⟩ := records_own (f := .done) rfl hlog
          obtain ⟨rfl, rfl⟩ := records_done_iff.mp hend
          refine ⟨.served conn started ended counts why, .inl ⟨?_, rfl⟩⟩
          rw [Visit.acts, List.append_assoc]
          rfl
    · rcases records_drain hw with ⟨counts, ⟨_, _, he⟩ | ⟨rfl, _⟩ | ⟨why, _, he⟩⟩
      · cases he
      · exact ⟨.served conn started 0 counts .closed, .inr (.inl ⟨.append _ ⟨[], _, _, rfl, rfl⟩, rfl⟩)⟩
      · cases he
    · rcases records_drain hu with ⟨counts, ⟨hlen, rfl, _⟩ | ⟨_, he⟩ | ⟨why, _, he⟩⟩
      · exact ⟨.refused .closed, .inr (.inr ⟨⟨conn, started, counts, hlen, rfl⟩, rfl⟩)⟩
      · cases he
      · cases he

/-- The record of serving: whole visits, and the one that breaks off or outlasts the unfolding, if
there is one. -/
theorem records_serve {n : Nat} {ending : Ending Failure}
    (h : Records Prompt (loop (fun () => do serveOne s depth; return .inl ()) n ()) acts ending) :
    ∃ (visits : List Visit) (cut : List (Act (interface Phase))),
      acts = visits.flatMap (Visit.acts s) ++ cut ∧
      ((ending = .waiting ∧ ∃ v : Visit, StallsIn cut (v.acts s)) ∨
        (ending = .unfinished ∧ ((cut = [] ∧ visits.length = n) ∨ Endless s depth cut))) := by
  induction n generalizing acts with
  | zero =>
    obtain ⟨rfl, rfl⟩ := records_rest_iff.mp h
    exact ⟨[], [], rfl, .inr ⟨rfl, .inl ⟨rfl, rfl⟩⟩⟩
  | succ n ih =>
    rcases records_loop h with ⟨_, front, back, rfl, hf, hb⟩ | hlast
    · rcases records_bind hf with ⟨_, first, last, rfl, hv, hd⟩ | ⟨_, he⟩ | ⟨_, he⟩
      · obtain ⟨rfl, -⟩ := records_done_iff.mp hd
        rcases records_serveOne hv with ⟨v, ⟨rfl, -⟩ | ⟨_, he⟩ | ⟨_, he⟩⟩
        · obtain ⟨visits, cut, rfl, hcut⟩ := ih hb
          refine ⟨v :: visits, cut, by simp, ?_⟩
          simpa using hcut
        · cases he
        · cases he
      · cases he
      · cases he
    · rcases records_bind hlast with ⟨_, first, last, rfl, hv, hd⟩ | ⟨hw, he⟩ | ⟨hu, he⟩
      · obtain ⟨-, he⟩ := records_done_iff.mp hd
        simp at he
      · obtain rfl := Ending.map_eq_waiting.mp he
        rcases records_serveOne hw with ⟨v, ⟨_, he⟩ | ⟨hcut, _⟩ | ⟨_, he⟩⟩
        · cases he
        · exact ⟨[], acts, rfl, .inl ⟨rfl, v, hcut⟩⟩
        · cases he
      · obtain rfl := Ending.map_eq_unfinished.mp he
        rcases records_serveOne hu with ⟨v, ⟨_, he⟩ | ⟨_, he⟩ | ⟨hcut, _⟩⟩
        · cases he
        · cases he
        · exact ⟨[], acts, rfl, .inr ⟨rfl, .inr hcut⟩⟩

/-- Before serving, the drain listens. -/
theorem records_runAt {address : Endpoint} {ending : Ending Failure}
    (h : Records Prompt (runAt s address depth) acts ending) :
    (acts = [⟨.enter .listening, some ()⟩, ⟨.listen address s.queueDepth, none⟩] ∧
        ending = .waiting) ∨
      (∃ why, acts = [⟨.enter .listening, some ()⟩,
          ⟨.listen address s.queueDepth, some (.error why)⟩,
          ⟨.note (.queueFailed address why), some ()⟩, ⟨.enter .idle, some ()⟩] ∧
        ending = .returned (.listen why)) ∨
      ∃ served, acts = ⟨.enter .listening, some ()⟩ ::
          ⟨.listen address s.queueDepth, some (.ok ())⟩ ::
          ⟨.note (.listening address s.queueDepth), some ()⟩ :: served ∧
        Records Prompt (serve s depth) served ending := by
  obtain ⟨_, _, rfl, hl⟩ := records_own rfl h
  rcases records_call hl with ⟨rfl, rfl⟩ | ⟨result, _, rfl, hr⟩
  · exact .inl ⟨rfl, rfl⟩
  change Except Fault Unit at result
  cases result with
  | error why =>
    obtain ⟨_, _, rfl, he⟩ := records_own rfl hr
    obtain ⟨_, _, rfl, hd⟩ := records_own rfl he
    obtain ⟨rfl, rfl⟩ := records_done_iff.mp hd
    exact .inr (.inl ⟨why, rfl, rfl⟩)
  | ok _ =>
    obtain ⟨_, _, rfl, hs⟩ := records_own rfl hr
    exact .inr (.inr ⟨_, rfl, hs⟩)

end NetBench.Stream.Drain
