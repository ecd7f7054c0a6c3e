import NetBench.Proofs.Stream.Draining
import NetBench.Proofs.Talk.Throughout
import NetBench.Settings.File

/-! The calls of a drain. It serves for ever, one connection at a time: a connection is read to its
failing read and given up once before the next accept. -/
namespace NetBench.Stream.Drain
open Talk

/-- The calls of one visit: an accept that fails, or a connection that is read until a read fails,
and then given up. -/
inductive Block (s : Settings) : List (Act (interface Phase)) → Prop where
  | refused (why : Fault) : Block s [⟨.accept none, some (.error why)⟩]
  | served (conn : Nat) (counts : List Nat) (why : Fault) :
      Block s (⟨.accept none, some (.ok conn)⟩ :: reads s conn counts ++
        [⟨.read conn s.readBufferSize.toNat none, some (.error why)⟩, ⟨.disconnect conn, some ()⟩])

/-- The calls of serving, unfolded to `depth` visits and to `depth` reads of each, by the end of the
run. It never returns; only the last block may be cut short, at a call that never completes. -/
def Served (s : Settings) (depth : Nat) (called : List (Act (interface Phase))) :
    Ending Failure → Prop
  | .returned _ => False
  | .waiting => ∃ blocks block cut, (∀ b ∈ blocks, Block s b) ∧ Block s block ∧
      StallsIn cut block ∧ called = List.flatten blocks ++ cut
  | .unfinished => ∃ blocks cut, (∀ b ∈ blocks, Block s b) ∧ called = List.flatten blocks ++ cut ∧
      ((cut = [] ∧ blocks.length = depth) ∨ ∃ conn counts, counts.length = depth ∧
        cut = ⟨.accept none, some (.ok conn)⟩ :: reads s conn counts)

def heldAfter (held : List Nat) : Act (interface Phase) → List Nat
  | ⟨.accept _, some (.ok conn)⟩ => conn :: held
  | ⟨.disconnect conn, some ()⟩ => held.erase conn
  | _ => held

/-- The connections open after a record: accepted, and not given up since. -/
def held (acts : List (Act (interface Phase))) : List Nat := acts.foldl heldAfter []

/-- What may be asked for in a phase, with some connections open. -/
def Proper (s : Settings) (phase : Phase) (held : List Nat) : Request Phase → Prop
  | .listen _ _ => phase = .listening ∧ held = []
  | .accept timeout => phase = .accepting ∧ held = [] ∧ timeout = none
  | .read conn room timeout => phase = .draining ∧ held = [conn] ∧
      room = s.readBufferSize.toNat ∧ timeout = none
  | .disconnect conn => phase = .draining ∧ held = [conn]
  | .write _ _ | .connect _ => False
  | .clock | .note _ | .enter _ => True

def Uses (conn : Nat) : Request Phase → Prop
  | .read c _ _ | .disconnect c => c = conn
  | _ => False

/-- One connection at a time, wherever a record is cut: every request is proper in the phase and
with the connections that the acts before it lead to, at most one is open, and what was given up is
used again only if it was accepted again. -/
structure OneAtATime (s : Settings) (start : Phase) (acts : List (Act (interface Phase))) : Prop where
  proper : ∀ front x back, acts = front ++ x :: back →
    Proper s (phaseAfter start front) (held front) x.1
  length_held_le : ∀ front back, acts = front ++ back → (held front).length ≤ 1
  accepted_again : ∀ front middle x back conn,
    acts = front ++ ⟨.disconnect conn, some ()⟩ :: middle ++ x :: back → Uses conn x.1 →
    ∃ timeout, ⟨.accept timeout, some (.ok conn)⟩ ∈ middle

/-- The phase, and the connections open. -/
structure Standing where
  phase : Phase
  held : List Nat

def Standing.after (m : Standing) (x : Act (interface Phase)) : Standing :=
  ⟨x.1.phaseFrom m.phase, heldAfter m.held x⟩

/-- Every request of a record is proper where it is made, from `m` on. -/
abbrev Orderly (s : Settings) : Standing → List (Act (interface Phase)) → Prop :=
  Throughout (fun m x => Proper s m.phase m.held x.1) Standing.after

variable {σ : Type} {s : Settings} {depth : Nat} {acts : List (Act (interface Phase))}

private theorem foldl_after (m : Standing) (acts : List (Act (interface Phase))) :
    acts.foldl Standing.after m = ⟨phaseAfter m.phase acts, acts.foldl heldAfter m.held⟩ := by
  induction acts generalizing m with
  | nil => rfl
  | cons x acts ih => rw [List.foldl_cons, ih]; rfl

private theorem orderly_reads (s : Settings) (conn : Nat) (counts : List Nat) :
    Orderly s ⟨.draining, [conn]⟩ (reads s conn counts) ∧
      (reads s conn counts).foldl Standing.after ⟨.draining, [conn]⟩ = ⟨.draining, [conn]⟩ := by
  apply throughout_of_forall
  · intro x hx
    obtain ⟨n, _, rfl⟩ := List.mem_map.mp hx
    exact ⟨rfl, rfl, rfl, rfl⟩
  · intro x hx
    obtain ⟨n, _, rfl⟩ := List.mem_map.mp hx
    rfl

private theorem orderly_visit (s : Settings) (phase : Phase) (v : Visit) :
    Orderly s ⟨phase, []⟩ (v.acts s) ∧ ∃ p, (v.acts s).foldl Standing.after ⟨phase, []⟩ = ⟨p, []⟩ := by
  cases v with
  | refused why => exact ⟨⟨trivial, ⟨rfl, rfl, rfl⟩, trivial, trivial⟩, .accepting, rfl⟩
  | served conn started ended counts why =>
    obtain ⟨hr, hf⟩ := orderly_reads s conn counts
    have hw : (welcome conn started).foldl Standing.after ⟨phase, []⟩ = ⟨.draining, [conn]⟩ := rfl
    have hp : (parting s conn counts.sum.toUInt64 started ended why).foldl Standing.after
        ⟨.draining, [conn]⟩ = ⟨.draining, [conn].erase conn⟩ := rfl
    rw [Visit.acts, List.foldl_append, List.foldl_append, hw, hf, hp, List.erase_cons_head]
    refine ⟨?_, .draining, rfl⟩
    simp only [Orderly, throughout_append, List.foldl_append, hw, hf]
    refine ⟨⟨⟨trivial, ⟨rfl, rfl, rfl⟩, trivial, trivial, trivial, trivial⟩, hr⟩, ?_⟩
    exact ⟨⟨rfl, rfl, rfl, rfl⟩, trivial, trivial, ⟨rfl, rfl⟩, trivial, trivial⟩

private theorem orderly_visits (s : Settings) (phase : Phase) (visits : List Visit) :
    Orderly s ⟨phase, []⟩ (visits.flatMap (Visit.acts s)) ∧
      ∃ p, (visits.flatMap (Visit.acts s)).foldl Standing.after ⟨phase, []⟩ = ⟨p, []⟩ := by
  induction visits generalizing phase with
  | nil => exact ⟨trivial, phase, rfl⟩
  | cons v visits ih =>
    obtain ⟨hv, p, hp⟩ := orderly_visit s phase v
    obtain ⟨hvs, q, hq⟩ := ih p
    simp only [Orderly, List.flatMap_cons, throughout_append, List.foldl_append, hp]
    exact ⟨⟨hv, hvs⟩, q, hq⟩

private theorem orderly_of_stallsIn {m : Standing} {cut whole : List (Act (interface Phase))}
    (h : StallsIn cut whole) (ho : Orderly s m whole) : Orderly s m cut := by
  obtain ⟨front, x, back, rfl, rfl⟩ := h
  simp only [Orderly, throughout_append, throughout_cons] at ho ⊢
  exact ⟨ho.1, ho.2.1, trivial⟩

private theorem orderly_serve {ending : Ending Failure} (phase : Phase)
    (h : Records Prompt (serve s depth) acts ending) : Orderly s ⟨phase, []⟩ acts := by
  obtain ⟨visits, cut, rfl, hcut⟩ := records_serve h
  obtain ⟨hv, p, hp⟩ := orderly_visits s phase visits
  refine (throughout_append _ _ _).mpr ⟨hv, ?_⟩
  rw [hp]
  rcases hcut with ⟨-, v, hstall⟩ | ⟨-, ⟨rfl, -⟩ | ⟨conn, started, counts, -, rfl⟩⟩
  · exact orderly_of_stallsIn hstall (orderly_visit s p v).1
  · trivial
  · obtain ⟨hw, -⟩ := orderly_visit s p (.served conn started 0 counts .closed)
    exact ((throughout_append _ _ _).mp hw).1

private theorem calls_reads (conn : Nat) (counts : List Nat) :
    calls (reads s conn counts) = reads s conn counts := by
  induction counts with
  | nil => rfl
  | cons n counts ih => exact congrArg _ ih

private theorem block_calls (v : Visit) : Block s (calls (v.acts s)) := by
  cases v with
  | refused why => exact .refused why
  | served conn started ended counts why =>
    rw [Visit.acts, calls_append, calls_append, calls_reads]
    exact .served conn counts why

private theorem calls_visits (visits : List Visit) :
    calls (visits.flatMap (Visit.acts s)) = (visits.map fun v => calls (v.acts s)).flatten := by
  induction visits with
  | nil => rfl
  | cons v visits ih => simp [ih]

private theorem served_serve {ending : Ending Failure}
    (h : Records Prompt (serve s depth) acts ending) : Served s depth (calls acts) ending := by
  have hp := h.within
  obtain ⟨visits, cut, rfl, hcut⟩ := records_serve h
  have hblocks : ∀ b ∈ visits.map fun v => calls (v.acts s), Block s b := by
    intro b hb
    obtain ⟨v, -, rfl⟩ := List.mem_map.mp hb
    exact block_calls v
  rw [calls_append, calls_visits]
  rcases hcut with ⟨rfl, v, hstall⟩ | ⟨rfl, ⟨rfl, hlen⟩ | ⟨conn, started, counts, hlen, rfl⟩⟩
  · refine ⟨_, _, _, hblocks, block_calls v, stallsIn_calls hstall ?_, rfl⟩
    exact fun x hx => hp x (List.mem_append_right _ hx)
  · exact ⟨_, _, hblocks, rfl, .inl ⟨rfl, by simpa using hlen⟩⟩
  · refine ⟨_, _, hblocks, rfl, .inr ⟨conn, counts, hlen, ?_⟩⟩
    rw [calls_append, calls_reads]
    rfl

private theorem length_heldAfter_le {phase : Phase} {held : List Nat} {x : Act (interface Phase)}
    (hp : Proper s phase held x.1) (hl : held.length ≤ 1) : (heldAfter held x).length ≤ 1 := by
  obtain ⟨r, answer⟩ := x
  cases r with
  | accept timeout =>
    obtain ⟨-, rfl, -⟩ := hp
    match answer with
    | none | some (.error _) | some (.ok _) => exact Nat.le_of_ble_eq_true rfl
  | disconnect conn =>
    obtain ⟨-, rfl⟩ := hp
    cases answer <;> simp [heldAfter]
  | _ => exact hl

private theorem length_held_le_of_orderly {m : Standing} (h : Orderly s m acts)
    (hl : m.held.length ≤ 1) : (acts.foldl heldAfter m.held).length ≤ 1 := by
  induction acts generalizing m with
  | nil => exact hl
  | cons x acts ih => exact ih h.2 (length_heldAfter_le h.1 hl)

private theorem mem_heldAfter {conn : Nat} {held : List Nat} {x : Act (interface Phase)}
    (h : conn ∈ heldAfter held x) :
    conn ∈ held ∨ ∃ timeout, x = ⟨.accept timeout, some (.ok conn)⟩ := by
  obtain ⟨r, answer⟩ := x
  cases r with
  | accept timeout =>
    match answer with
    | none | some (.error _) => exact .inl h
    | some (.ok made) =>
      rcases List.mem_cons.mp h with rfl | hm
      · exact .inr ⟨timeout, rfl⟩
      · exact .inl hm
  | disconnect given =>
    match answer with
    | none => exact .inl h
    | some () => exact .inl (List.mem_of_mem_erase h)
  | _ => exact .inl h

private theorem accepted_of_mem {conn : Nat} {held : List Nat}
    (h : conn ∈ acts.foldl heldAfter held) :
    conn ∈ held ∨ ∃ timeout, ⟨.accept timeout, some (.ok conn)⟩ ∈ acts := by
  induction acts generalizing held with
  | nil => exact .inl h
  | cons x acts ih =>
    rcases ih h with hx | ⟨timeout, ht⟩
    · rcases mem_heldAfter hx with hm | ⟨timeout, rfl⟩
      · exact .inl hm
      · exact .inr ⟨timeout, .head acts⟩
    · exact .inr ⟨timeout, .tail x ht⟩

private theorem held_of_uses {conn : Nat} {phase : Phase} {held : List Nat} {r : Request Phase}
    (hp : Proper s phase held r) (hr : Uses conn r) : held = [conn] := by
  cases r with
  | read c room timeout =>
    obtain rfl : c = conn := hr
    exact hp.2.1
  | disconnect c =>
    obtain rfl : c = conn := hr
    exact hp.2
  | _ => exact hr.elim

private theorem oneAtATime_of_orderly {start : Phase} (h : Orderly s ⟨start, []⟩ acts) :
    OneAtATime s start acts := by
  have hproper (front : List (Act (interface Phase))) (x : Act (interface Phase))
      (back : List (Act (interface Phase))) (he : acts = front ++ x :: back) :
      Proper s (phaseAfter start front) (held front) x.1 := by
    subst he
    have hx := h.at
    rwa [foldl_after] at hx
  refine ⟨hproper, ?_, ?_⟩
  · rintro front back rfl
    have hfront := ((throughout_append _ _ _).mp h).1
    exact length_held_le_of_orderly hfront (Nat.zero_le 1)
  · intro front middle x back conn he hx
    have hgiven : held front = [conn] :=
      held_of_uses (hproper front ⟨.disconnect conn, some ()⟩ (middle ++ x :: back) (by simp [he])) rfl
    have hused : held (front ++ ⟨.disconnect conn, some ()⟩ :: middle) = [conn] :=
      held_of_uses (hproper _ x back he) hx
    have hin : conn ∈ middle.foldl heldAfter [] := by
      have hnone : heldAfter [conn] ⟨.disconnect conn, some ()⟩ = [] := List.erase_cons_head ..
      rw [held, List.foldl_append, List.foldl_cons, ← held, hgiven, hnone] at hused
      rw [hused]
      exact .head []
    rcases accepted_of_mem hin with hm | ht
    · cases hm
    · exact ht

/-- With a host that parses, a drain asks once to listen there. Once it may, it never returns: it
serves block after block, with one connection open at a time. -/
theorem serves_one_at_a_time {h : Handler (interface Phase) σ} (hh : h.Within Prompt) {ip : Ip}
    (hp : parseAddress s.listenHost = .ok ip) (depth : Nat) (w : σ) (start : Phase) :
    let run := play h (run s depth) w
    OneAtATime s start run.acts ∧ ∃ answer called,
      calls run.acts = ⟨.listen ⟨ip, s.listenPort⟩ s.queueDepth, answer⟩ :: called ∧
      match answer with
      | none => called = [] ∧ run.ending = .waiting
      | some (.error why) => called = [] ∧ run.ending = .returned (.listen why)
      | some (.ok ()) => Served s depth called run.ending := by
  have hrun : run s depth = runAt s ⟨ip, s.listenPort⟩ depth := by simp only [run, hp]
  intro run
  have hr : Records Prompt (runAt s ⟨ip, s.listenPort⟩ depth) run.acts run.ending :=
    hrun ▸ records_play hh (Drain.run s depth) w
  rcases records_runAt hr with ⟨ha, he⟩ | ⟨why, ha, he⟩ | ⟨served, ha, hs⟩
  · rw [ha, he]
    exact ⟨oneAtATime_of_orderly ⟨trivial, ⟨rfl, rfl⟩, trivial⟩, none, [], rfl, rfl, rfl⟩
  · rw [ha, he]
    exact ⟨oneAtATime_of_orderly ⟨trivial, ⟨rfl, rfl⟩, trivial, trivial, trivial⟩,
      some (.error why), [], rfl, rfl, rfl⟩
  · rw [ha]
    exact ⟨oneAtATime_of_orderly ⟨trivial, ⟨rfl, rfl⟩, trivial, orderly_serve .listening hs⟩,
      some (.ok ()), calls served, rfl, served_serve hs⟩

/-- Two connections, of which the first sends seven bytes in two pieces, and one accept between them
that fails. The second is never heard of. -/
def visiting : Script.Connections where
  listens := []
  accepts := [.now (.ok ()), ⟨5, some (.error .timedOut)⟩, .now (.ok ())]
  connects := []
  reads := [.now (.ok (.count 3)), .now (.ok (.count 4)), .now (.error .closed), .never]
  writes := []
  clock := Clock.stepping 0 1000

theorem serves_one_at_a_time_visiting :
    let handler := Script.Connections.handler Phase
    let run := play handler (run Settings.default 4) visiting
    handler.Within Prompt ∧ parseAddress Settings.default.listenHost = .ok (.v4 .unspecified) ∧
      run.ending = .waiting ∧ phaseAfter .idle run.acts = .draining ∧
      OneAtATime Settings.default .idle run.acts :=
  ⟨prompt_script, rfl, rfl, rfl, (serves_one_at_a_time prompt_script rfl 4 visiting .idle).1⟩

end NetBench.Stream.Drain
