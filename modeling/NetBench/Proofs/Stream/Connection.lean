import NetBench.Proofs.Stream.Draining
import NetBench.Settings.File

/-! What one connection leaves on record, when its reads fail in the end: its own calls, two
readings of the clock and one summary. Nothing else is there, and nothing of it depends on what was
before. -/
namespace NetBench.Stream.Drain
open Talk

def isAccept (x : Act (interface Phase)) : Bool :=
  match x.1 with
  | .accept _ => true
  | _ => false

/-- What belongs to one connection, in the record that follows its accept: all up to the next. -/
def untilAccept (acts : List (Act (interface Phase))) : List (Act (interface Phase)) :=
  acts.takeWhile fun x => !isAccept x

@[simp] def giving : Act (interface Phase) → Option (Option (Except Fault Nat))
  | ⟨.read _ _ _, answer⟩ => some answer
  | _ => none

def given (acts : List (Act (interface Phase))) : List (Option (Except Fault Nat)) :=
  acts.filterMap giving

def Visit.accepting : Visit → Act (interface Phase)
  | .refused why => ⟨.accept none, some (.error why)⟩
  | .served conn _ _ _ _ => ⟨.accept none, some (.ok conn)⟩

def settling (started : UInt64) : List (Act (interface Phase)) :=
  [⟨.enter .draining, some ()⟩, ⟨.note .reading, some ()⟩, ⟨.clock, some started⟩]

def Visit.inside (s : Settings) : Visit → List (Act (interface Phase))
  | .refused why => [⟨.note (.acceptFailed why), some ()⟩]
  | .served conn started ended counts why =>
    settling started ++ reads s conn counts ++ parting s conn counts.sum.toUInt64 started ended why

/-- The record of a visit from its failing read on, up to where its connection is given up. -/
def closing (s : Settings) (conn : Nat) (received ended : UInt64) (why : Fault) :
    List (Act (interface Phase)) :=
  [⟨.read conn s.readBufferSize.toNat none, some (.error why)⟩,
    ⟨.note (.readFinished received), some ()⟩, ⟨.clock, some ended⟩]

/-- What a record of serving may end in after its visits. -/
def CutShort (s : Settings) (depth : Nat) (cut : List (Act (interface Phase))) : Prop :=
  cut = [] ∨ (∃ v : Visit, StallsIn cut (v.acts s)) ∨ Endless s depth cut

/-- What a connection leaves on record up to the next accept, if its reads move `counts` and then
fail. Giving it up may take for ever, and then nothing follows. -/
inductive Ended (s : Settings) (conn : Nat) (counts : List Nat) (why : Fault)
    (started ended : UInt64) : List (Act (interface Phase)) → Prop where
  | parting : Ended s conn counts why started ended
      (settling started ++ reads s conn counts ++ closing s conn counts.sum.toUInt64 ended why ++
        [⟨.disconnect conn, none⟩])
  | parted {later : List (Act (interface Phase))}
      (h : later = [] ∨ later = [⟨.enter .accepting, some ()⟩]) :
      Ended s conn counts why started ended
        (settling started ++ reads s conn counts ++
          parting s conn counts.sum.toUInt64 started ended why ++ later)

/-- The event that sums up a connection: its bytes, the time between two readings of a clock that
wraps, and what ended it, unless that was in good order. -/
structure SumsUp (e : Event) (bytes : Nat) (started ended : UInt64) (why : Fault) : Prop where
  message_eq : e.message = "Disconnected"
  bytes_eq : e.fields.lookup "bytes" = some (.number bytes)
  elapsed_eq : e.fields.lookup "elapsed_us" =
    some (.number ((2 ^ 64 - started.toNat + ended.toNat) % 2 ^ 64))
  level_eq : e.level = if why.isClosed then .info else .warn
  error_eq : e.fields.lookup "error" = if why.isClosed then none else some (.text why.message)

variable {s : Settings} {conn depth : Nat} {acts front back : List (Act (interface Phase))}
  {x : Act (interface Phase)}

private theorem acts_eq (v : Visit) :
    v.acts s = ⟨.enter .accepting, some ()⟩ :: v.accepting :: v.inside s := by
  cases v <;> rfl

private theorem not_accept_inside (v : Visit) : ∀ y ∈ v.inside s, isAccept y = false := by
  intro y hy
  cases v with
  | refused why =>
    obtain rfl : y = _ := List.mem_singleton.mp hy
    rfl
  | served conn started ended counts why =>
    simp only [Visit.inside, settling, reads, parting, List.cons_append, List.nil_append,
      List.mem_cons, List.mem_append, List.mem_map, List.not_mem_nil, or_false] at hy
    rcases hy with rfl | rfl | rfl | ⟨n, -, rfl⟩ | rfl | rfl | rfl | rfl | rfl <;> rfl

private theorem accept_beyond {first later : List (Act (interface Phase))}
    (hf : ∀ y ∈ first, isAccept y = false) (hx : isAccept x = true)
    (he : first ++ later = front ++ x :: back) : ∃ front', later = front' ++ x :: back := by
  induction first generalizing front with
  | nil => exact ⟨front, he⟩
  | cons y first ih =>
    cases front with
    | nil =>
      obtain ⟨rfl, -⟩ := List.cons.inj he
      rw [hf y (.head first)] at hx
      cases hx
    | cons z front =>
      obtain ⟨-, ht⟩ := List.cons.inj he
      exact ih (fun w hw => hf w (.tail y hw)) ht

private theorem accept_in_visits {visits : List Visit} {cut : List (Act (interface Phase))}
    (hx : isAccept x = true)
    (he : visits.flatMap (Visit.acts s) ++ cut = front ++ x :: back) :
    (∃ (v : Visit) (later : List Visit), x = v.accepting ∧
        back = v.inside s ++ (later.flatMap (Visit.acts s) ++ cut)) ∨
      ∃ front', cut = front' ++ x :: back := by
  induction visits generalizing front with
  | nil => exact .inr ⟨front, he⟩
  | cons v visits ih =>
    have hopen : ∀ y ∈ [(⟨.enter .accepting, some ()⟩ : Act (interface Phase))], isAccept y = false :=
      List.forall_mem_singleton.mpr rfl
    have hv : [⟨.enter .accepting, some ()⟩] ++ v.accepting :: (v.inside s ++
        (visits.flatMap (Visit.acts s) ++ cut)) = front ++ x :: back := by
      simpa [acts_eq] using he
    obtain ⟨before, hb⟩ := accept_beyond hopen hx hv
    cases before with
    | nil =>
      obtain ⟨rfl, rfl⟩ := List.cons.inj hb
      exact .inl ⟨v, visits, rfl, rfl⟩
    | cons y before =>
      obtain ⟨-, ht⟩ := List.cons.inj hb
      obtain ⟨beyond, hl⟩ := accept_beyond (not_accept_inside v) hx ht
      exact ih hl

private theorem untilAccept_append (h : ∀ y ∈ front, isAccept y = false)
    (later : List (Act (interface Phase))) :
    untilAccept (front ++ later) = front ++ untilAccept later := by
  apply List.takeWhile_append_of_pos
  intro y hy
  rw [h y hy]
  rfl

private theorem untilAccept_of_none (h : ∀ y ∈ acts, isAccept y = false) :
    untilAccept acts = acts := by
  have ha := untilAccept_append h []
  have hnil : untilAccept [] = [] := rfl
  rwa [hnil, List.append_nil] at ha

private theorem untilAccept_accepting (v : Visit) (later : List (Act (interface Phase))) :
    untilAccept (⟨.enter .accepting, some ()⟩ :: v.accepting :: later) =
      [⟨.enter .accepting, some ()⟩] := by
  cases v <;> rfl

private theorem untilAccept_later (later : List Visit) {cut : List (Act (interface Phase))}
    (hc : CutShort s depth cut) (hp : ∀ y ∈ cut, Prompt y) :
    untilAccept (later.flatMap (Visit.acts s) ++ cut) = [] ∨
      untilAccept (later.flatMap (Visit.acts s) ++ cut) = [⟨.enter .accepting, some ()⟩] := by
  cases later with
  | cons v later =>
    rw [List.flatMap_cons, acts_eq, List.append_assoc]
    exact .inr (untilAccept_accepting v _)
  | nil =>
    rcases hc with rfl | ⟨v, front, x, back, hv, rfl⟩ | ⟨conn, started, counts, -, rfl⟩
    · exact .inl rfl
    · rw [acts_eq] at hv
      rcases front with _ | ⟨y, _ | ⟨z, front⟩⟩
      · obtain ⟨rfl, -⟩ := List.cons.inj hv
        exact absurd rfl (hp _ (.head _) rfl)
      · obtain ⟨rfl, ht⟩ := List.cons.inj hv
        obtain ⟨rfl, -⟩ := List.cons.inj ht
        cases v <;> exact .inr rfl
      · obtain ⟨rfl, ht⟩ := List.cons.inj hv
        obtain ⟨rfl, -⟩ := List.cons.inj ht
        exact .inr (untilAccept_accepting v _)
    · exact .inr rfl

theorem given_append_reads (s : Settings) (conn : Nat) (counts : List Nat)
    (later : List (Act (interface Phase))) :
    given (reads s conn counts ++ later) = counts.map (fun n => some (.ok n)) ++ given later := by
  rw [given, List.filterMap_append, reads, List.filterMap_map]
  exact congrArg (· ++ given later) (congrFun List.filterMap_eq_map counts)

private theorem given_settled (conn : Nat) (started : UInt64) (counts : List Nat)
    (later : List (Act (interface Phase))) :
    given (settling started ++ reads s conn counts ++ later) =
      counts.map (fun n => some (.ok n)) ++ given later := by
  rw [List.append_assoc, ← given_append_reads s conn]
  rfl

private theorem accept_in_visit {answer : Option Unit} {y : Act (interface Phase)}
    {body : List (Act (interface Phase))} (hb : ∀ z ∈ body, isAccept z = false)
    (hx : isAccept x = true)
    (he : ⟨.enter .accepting, answer⟩ :: y :: body = front ++ x :: back) : y = x ∧ back = body := by
  rcases front with _ | ⟨_, _ | ⟨_, front⟩⟩
  · obtain ⟨rfl, -⟩ := List.cons.inj he
    cases hx
  · obtain ⟨-, ht⟩ := List.cons.inj he
    obtain ⟨hy, hbody⟩ := List.cons.inj ht
    exact ⟨hy, hbody.symm⟩
  · obtain ⟨-, ht⟩ := List.cons.inj he
    obtain ⟨-, hbody⟩ := List.cons.inj ht
    have hm : x ∈ body := by simp [hbody]
    rw [hb x hm] at hx
    cases hx

private theorem read_of_waiting {v : Visit} {r : Request Phase} {answer : Option r.Answer}
    (hv : v.accepting = ⟨.accept none, some (.ok conn)⟩) (hm : ⟨r, answer⟩ ∈ v.inside s)
    (hp : Prompt ⟨r, none⟩) (hr : r ≠ .disconnect conn) : giving ⟨r, none⟩ = some none := by
  cases v with
  | refused why => cases hv
  | served conn' started ended counts why =>
    cases hv
    simp only [Visit.inside, settling, reads, parting, List.cons_append, List.nil_append,
      List.mem_cons, List.mem_append, List.mem_map, List.not_mem_nil, or_false] at hm
    rcases hm with h | h | h | ⟨n, -, h⟩ | h | h | h | h | h <;> cases h
    all_goals first | rfl | exact absurd rfl (hp rfl) | exact absurd rfl hr

private theorem stalled_after {first : List (Act (interface Phase))} {r : Request Phase}
    (he : first ++ [⟨r, none⟩] = front ++ ⟨.accept none, some (.ok conn)⟩ :: back) :
    ∃ before, back = before ++ [⟨r, none⟩] ∧
      first = front ++ ⟨.accept none, some (.ok conn)⟩ :: before := by
  rcases List.eq_nil_or_concat back with rfl | ⟨before, y, rfl⟩
  · have hlast := (List.append_inj' he rfl).2
    cases (List.cons.inj hlast).1
  · have hsplit : first ++ [⟨r, none⟩] =
        (front ++ ⟨.accept none, some (.ok conn)⟩ :: before) ++ [y] := by simpa using he
    obtain ⟨hfirst, hy⟩ := List.append_inj' hsplit rfl
    rw [List.concat_eq_append, hy]
    exact ⟨before, rfl, hfirst⟩

private theorem given_inj {counts counts' : List Nat} {why why' : Fault}
    (h : counts'.map (fun n => some (Except.ok n)) ++ [some (.error why')] =
      counts.map (fun n => some (Except.ok n)) ++ [some (.error why)]) :
    counts' = counts ∧ why' = why := by
  obtain ⟨hcounts, hlast⟩ := List.append_inj' h rfl
  refine ⟨(List.map_inj_right ?_).mp hcounts, by simpa using hlast⟩
  intro n m hn
  simpa using hn

private theorem inside_of_given {v : Visit} (hv : v.accepting = ⟨.accept none, some (.ok conn)⟩)
    {counts : List Nat} {why : Fault}
    (hg : given (v.inside s) = counts.map (fun n => some (.ok n)) ++ [some (.error why)]) :
    ∃ started ended, v.inside s =
      settling started ++ reads s conn counts ++ parting s conn counts.sum.toUInt64 started ended why := by
  cases v with
  | refused why' => cases hv
  | served conn' started ended counts' why' =>
    cases hv
    rw [Visit.inside, given_settled] at hg
    obtain ⟨rfl, rfl⟩ := given_inj hg
    exact ⟨started, ended, rfl⟩

private theorem disconnect_not_mem (s : Settings) (conn : Nat) (started ended : UInt64)
    (counts : List Nat) (why : Fault) (other : Nat) (answer : Option Unit) :
    ⟨.disconnect other, answer⟩ ∉
      settling started ++ reads s conn counts ++ closing s conn counts.sum.toUInt64 ended why := by
  simp [settling, reads, closing]

private theorem inside_of_disconnect {v : Visit}
    (hv : v.accepting = ⟨.accept none, some (.ok conn)⟩) {before last : List (Act (interface Phase))}
    {answer : Option Unit} (hi : before ++ ⟨.disconnect conn, answer⟩ :: last = v.inside s) :
    ∃ started ended counts why, before =
      settling started ++ reads s conn counts ++ closing s conn counts.sum.toUInt64 ended why := by
  cases v with
  | refused why => cases hv
  | served conn' started ended counts why =>
    cases hv
    have hvisit : Visit.inside s (.served conn started ended counts why) =
        settling started ++ reads s conn counts ++ closing s conn counts.sum.toUInt64 ended why ++
          ⟨.disconnect conn, some ()⟩ ::
            [⟨.note (.drained ⟨counts.sum.toUInt64, ended - started⟩ why), some ()⟩] := by
      rw [Visit.inside, List.append_assoc _ (closing ..)]
      rfl
    rw [hvisit] at hi
    have hbefore := disconnect_not_mem s conn started ended counts why conn answer
    obtain ⟨hfront, -⟩ := (List.append_cons_inj_of_notMem hbefore (by simp)).mp hi.symm
    exact ⟨started, ended, counts, why, hfront.symm⟩

/-- A connection at which the record breaks off had no failing read, or is just given up. -/
private theorem ended_cut {cut : List (Act (interface Phase))} (hc : CutShort s depth cut)
    (hp : ∀ y ∈ cut, Prompt y) (he : cut = front ++ ⟨.accept none, some (.ok conn)⟩ :: back)
    {counts : List Nat} {why : Fault}
    (hg : given (untilAccept back) = counts.map (fun n => some (.ok n)) ++ [some (.error why)]) :
    ∃ started ended, Ended s conn counts why started ended (untilAccept back) := by
  rcases hc with rfl | ⟨v, first, ⟨r, answer⟩, last, hv, rfl⟩ | ⟨conn', started, counts', -, rfl⟩
  · simp at he
  · obtain ⟨before, rfl, rfl⟩ := stalled_after he
    rw [acts_eq, List.append_assoc, List.cons_append] at hv
    obtain ⟨hmade, hinside⟩ := accept_in_visit (not_accept_inside v) rfl hv
    have hin : ∀ y ∈ before ++ [⟨r, answer⟩], y ∈ v.inside s := by
      intro y hy
      rw [← hinside, List.append_cons]
      exact List.mem_append_left _ hy
    have hmem : ⟨r, answer⟩ ∈ v.inside s := hin _ (List.mem_append_right _ (.head []))
    have hnone : ∀ y ∈ before ++ [⟨r, none⟩], isAccept y = false := by
      intro y hy
      rcases List.mem_append.mp hy with hb | hl
      · exact not_accept_inside v y (hin y (List.mem_append_left _ hb))
      · obtain rfl : y = ⟨r, none⟩ := List.mem_singleton.mp hl
        exact not_accept_inside v ⟨r, answer⟩ hmem
    rw [untilAccept_of_none hnone] at hg ⊢
    by_cases hr : r = .disconnect conn
    · subst hr
      obtain ⟨started, ended, counts', why', rfl⟩ := inside_of_disconnect hmade hinside
      rw [List.append_assoc, given_settled] at hg
      obtain ⟨rfl, rfl⟩ := given_inj hg
      exact ⟨started, ended, .parting⟩
    · have hread : giving ⟨r, none⟩ = some none :=
        read_of_waiting hmade hmem (hp _ (List.mem_append_right _ (.head []))) hr
      rw [given, List.filterMap_append, List.filterMap_cons, hread] at hg
      cases (List.append_inj' hg rfl).2
  · have hnone : ∀ y ∈ settling started ++ reads s conn' counts', isAccept y = false := by
      intro y hy
      exact not_accept_inside (.served conn' started 0 counts' .closed) y (List.mem_append_left _ hy)
    obtain ⟨-, rfl⟩ := accept_in_visit hnone rfl he
    have hgiven : given (settling started ++ reads s conn' counts') =
        counts'.map fun n => some (.ok n) := by
      have hs := given_settled (s := s) conn' started counts' []
      simpa [given] using hs
    rw [untilAccept_of_none hnone, hgiven] at hg
    have hmem : some (.error why) ∈ counts'.map (fun n => some (Except.ok (ε := Fault) n)) := by
      rw [hg]
      simp
    simp at hmem

/-- Whatever comes before a connection whose reads end in a failing one, and whatever comes after
it, it is read to its end, timed and summed up. -/
theorem ended_connection {ending : Ending Failure} (h : Records Prompt (run s depth) acts ending)
    (he : acts = front ++ ⟨.accept none, some (.ok conn)⟩ :: back) {counts : List Nat} {why : Fault}
    (hg : given (untilAccept back) = counts.map (fun n => some (.ok n)) ++ [some (.error why)]) :
    ∃ started ended, Ended s conn counts why started ended (untilAccept back) := by
  have hp := h.within
  unfold run at h
  cases hparse : parseAddress s.listenHost with
  | error why' =>
    rw [hparse] at h
    obtain ⟨rfl, -⟩ := records_done_iff.mp h
    simp at he
  | ok ip =>
    rw [hparse] at h
    have hnone (first : List (Act (interface Phase))) (hf : ∀ y ∈ first, isAccept y = false)
        (ha : first = front ++ ⟨.accept none, some (.ok conn)⟩ :: back) : False := by
      have hm : ⟨.accept none, some (.ok conn)⟩ ∈ first := by simp [ha]
      cases hf _ hm
    rcases records_runAt h with ⟨rfl, -⟩ | ⟨why', rfl, -⟩ | ⟨served, rfl, hs⟩
    · exact (hnone _ (by simp [isAccept]) he).elim
    · exact (hnone _ (by simp [isAccept]) he).elim
    · obtain ⟨visits, cut, rfl, hcut⟩ := records_serve hs
      have hc : CutShort s depth cut := by
        rcases hcut with ⟨-, hv⟩ | ⟨-, ⟨rfl, -⟩ | hu⟩
        · exact .inr (.inl hv)
        · exact .inl rfl
        · exact .inr (.inr hu)
      have hpc : ∀ y ∈ cut, Prompt y := fun y hy => hp y (by simp [hy])
      have hopen : ∀ y ∈ [(⟨.enter .listening, some ()⟩ : Act (interface Phase)),
          ⟨.listen ⟨ip, s.listenPort⟩ s.queueDepth, some (.ok ())⟩,
          ⟨.note (.listening ⟨ip, s.listenPort⟩ s.queueDepth), some ()⟩], isAccept y = false := by
        simp [isAccept]
      obtain ⟨first, hfirst⟩ := accept_beyond hopen rfl he
      rcases accept_in_visits rfl hfirst with ⟨v, later, hv, rfl⟩ | ⟨last, hlast⟩
      · have hlater := untilAccept_later later hc hpc
        have hquiet : given (untilAccept (later.flatMap (Visit.acts s) ++ cut)) = [] := by
          rcases hlater with hnil | hopened
          · rw [hnil]
            rfl
          · rw [hopened]
            rfl
        rw [untilAccept_append (not_accept_inside v)] at hg ⊢
        rw [given, List.filterMap_append, ← given, ← given, hquiet, List.append_nil] at hg
        obtain ⟨started, ended, hinside⟩ := inside_of_given hv.symm hg
        rw [hinside]
        exact ⟨started, ended, .parted hlater⟩
      · exact ended_cut hc hpc hlast hg

private theorem sumsUp_drained {bytes : Nat} (hb : bytes < 2 ^ 64) (started ended : UInt64)
    (why : Fault) :
    SumsUp (.drained ⟨bytes.toUInt64, ended - started⟩ why) bytes started ended why where
  message_eq := rfl
  bytes_eq := congrArg (some ∘ FieldValue.number) (UInt64.toNat_ofNat_of_lt' hb)
  elapsed_eq := by
    rw [← UInt64.toNat_sub]
    rfl
  level_eq := rfl
  error_eq := by cases why <;> rfl

variable {counts : List Nat} {why : Fault} {started ended : UInt64}
  {heard before after : List (Act (interface Phase))}

private theorem readings_settled (conn : Nat) (started : UInt64) (counts : List Nat)
    (later : List (Act (interface Phase))) :
    readings (settling started ++ reads s conn counts ++ later) = some started :: readings later := by
  induction counts with
  | nil => rfl
  | cons n counts ih => exact ih

private theorem readings_ended (h : Ended s conn counts why started ended heard) :
    readings heard = [some started, some ended] := by
  cases h with
  | parting =>
    rw [List.append_assoc, readings_settled]
    rfl
  | parted hlater =>
    rw [List.append_assoc, readings_settled]
    rcases hlater with rfl | rfl <;> rfl

private theorem Ended.parts (h : Ended s conn counts why started ended heard) :
    ∃ answer after, heard = settling started ++ reads s conn counts ++
        closing s conn counts.sum.toUInt64 ended why ++ ⟨.disconnect conn, answer⟩ :: after ∧
      (answer = none → after = []) ∧
      (answer = some () → events after = [.drained ⟨counts.sum.toUInt64, ended - started⟩ why]) ∧
      ∀ conn answer, ⟨.disconnect conn, answer⟩ ∉ after := by
  cases h with
  | parting => exact ⟨none, [], rfl, fun _ => rfl, nofun, fun _ _ => List.not_mem_nil⟩
  | @parted later hlater =>
    refine ⟨some (), ⟨.note (.drained ⟨counts.sum.toUInt64, ended - started⟩ why), some ()⟩ :: later,
      ?_, nofun, fun _ => ?_, fun conn answer => ?_⟩
    · simp [Drain.parting, closing]
    · rcases hlater with rfl | rfl <;> rfl
    · rcases hlater with rfl | rfl <;> simp

private theorem Ended.events_after (h : Ended s conn counts why started ended heard)
    (hd : heard = before ++ ⟨.disconnect conn, some ()⟩ :: after) :
    events after = [.drained ⟨counts.sum.toUInt64, ended - started⟩ why] := by
  obtain ⟨answer, rest, hheard, -, hlog, hrest⟩ := h.parts
  have hfront := disconnect_not_mem s conn started ended counts why conn (some ())
  rw [hheard] at hd
  obtain ⟨-, hanswer, rfl⟩ := (List.append_cons_inj_of_notMem hfront (hrest conn (some ()))).mp hd
  exact hlog (by simpa using hanswer)

variable {σ τ : Type}

/-- A connection whose reads fail in the end is timed by two readings of the clock, right after it
is accepted and right after that read, and summed up once, after it is given up and before the next
is accepted, with all its bytes if so many can be counted. The sum and the time are its own: no
history of other connections has a part in it. -/
theorem connection_summed_up_alone {h : Handler (interface Phase) σ} (hp : h.Within Prompt)
    (s : Settings) (depth : Nat) (w : σ) :
    let run := play h (run s depth) w
    let heard := untilAccept back
    run.acts = front ++ ⟨.accept none, some (.ok conn)⟩ :: back →
    given heard = counts.map (fun n => some (.ok n)) ++ [some (.error why)] →
    (∃ a b answer after,
      heard = settling a ++ reads s conn counts ++ closing s conn counts.sum.toUInt64 b why ++
        ⟨.disconnect conn, answer⟩ :: after ∧
      readings heard = [some a, some b] ∧ (answer = none → after = []) ∧
      (answer = some () → ∃ e, events after = [e] ∧
        (counts.sum < 2 ^ 64 → SumsUp e counts.sum a b why))) ∧
    ∀ {h' : Handler (interface Phase) τ}, h'.Within Prompt → ∀ t more w' front' conn' back',
      (play h' (Drain.run t more) w').acts = front' ++ ⟨.accept none, some (.ok conn')⟩ :: back' →
      let other := untilAccept back'
      given other = given heard → readings other = readings heard →
      ∀ before after before' after', heard = before ++ ⟨.disconnect conn, some ()⟩ :: after →
        other = before' ++ ⟨.disconnect conn', some ()⟩ :: after' → events after' = events after := by
  intro run heard hacts hg
  obtain ⟨a, b, hended⟩ := ended_connection (records_play hp (Drain.run s depth) w) hacts hg
  constructor
  · obtain ⟨answer, after, hheard, hnone, hsome, -⟩ := hended.parts
    exact ⟨a, b, answer, after, hheard, readings_ended hended, hnone,
      fun ha => ⟨_, hsome ha, fun hb => sumsUp_drained hb a b why⟩⟩
  · intro h' hp' t more w' front' conn' back' hacts' other hsame hclock before after before' after' hd hd'
    obtain ⟨a', b', hended'⟩ :=
      ended_connection (records_play hp' (Drain.run t more) w') hacts' (hsame.trans hg)
    rw [readings_ended hended, readings_ended hended'] at hclock
    obtain ⟨rfl, rfl⟩ : a' = a ∧ b' = b := by simpa using hclock
    rw [hended.events_after hd, hended'.events_after hd']

/-- A drain that is to accept, read and look at its clock like this. -/
def visitors (accepts : List (Script.Cue Unit)) (reads : List (Script.Cue Script.Amount))
    (readings : List UInt64) : Script.Connections where
  listens := []
  accepts := accepts
  connects := []
  reads := reads
  writes := []
  clock := Clock.ofReadings readings

def lastReads : List (Script.Cue Script.Amount) :=
  [.now (.ok (.count 3)), .now (.ok (.count 4)), .now (.error .timedOut)]

/-- They are the second connection, after an accept that fails; the clock wraps in between. -/
def busy : Script.Connections :=
  visitors [.now (.error .timedOut), .now (.ok ()), .now (.ok ())]
    ([.now (.ok (.count 5)), .now (.error .closed)] ++ lastReads) [0, 10, 18446744073709551000, 384]

def quiet : Script.Connections :=
  visitors [.now (.ok ())] lastReads [18446744073709551000, 384]

def visited (w : Script.Connections) : List (Act (interface Phase)) :=
  (play (Script.Connections.handler Phase) (run Settings.default 5) w).acts

def heardAfter (n : Nat) (w : Script.Connections) : List (Act (interface Phase)) :=
  untilAccept ((visited w).drop (n + 1))

theorem connection_summed_up_alone_busy :
    (Script.Connections.handler Phase).Within Prompt ∧
      given (heardAfter 18 busy) = [3, 4].map (fun n => some (.ok n)) ++ [some (.error .timedOut)] ∧
      given (heardAfter 4 quiet) = given (heardAfter 18 busy) ∧
      readings (heardAfter 4 quiet) = readings (heardAfter 18 busy) ∧
      (∃ e, events ((heardAfter 18 busy).drop 9) = [e] ∧
        SumsUp e 7 18446744073709551000 384 .timedOut) ∧
      events ((heardAfter 4 quiet).drop 9) = events ((heardAfter 18 busy).drop 9) := by
  have hacts : visited busy = (visited busy).take 18 ++ ⟨.accept none, some (.ok 2)⟩ ::
      (visited busy).drop 19 := by cbv
  have hacts' : visited quiet = (visited quiet).take 4 ++ ⟨.accept none, some (.ok 1)⟩ ::
      (visited quiet).drop 5 := by cbv
  have hgiven : given (heardAfter 18 busy) =
      [3, 4].map (fun n => some (.ok n)) ++ [some (.error .timedOut)] := by decide +kernel
  have hsame : given (heardAfter 4 quiet) = given (heardAfter 18 busy) := by decide +kernel
  have hclock : readings (heardAfter 4 quiet) = readings (heardAfter 18 busy) := by decide +kernel
  have hshown : readings (heardAfter 18 busy) = [some 18446744073709551000, some 384] := by
    decide +kernel
  have hgivenUp : (heardAfter 18 busy).drop 8 =
      ⟨.disconnect 2, some ()⟩ :: (heardAfter 18 busy).drop 9 := by cbv
  have hd : heardAfter 18 busy = (heardAfter 18 busy).take 8 ++ ⟨.disconnect 2, some ()⟩ ::
      (heardAfter 18 busy).drop 9 := by cbv
  have hd' : heardAfter 4 quiet = (heardAfter 4 quiet).take 8 ++ ⟨.disconnect 1, some ()⟩ ::
      (heardAfter 4 quiet).drop 9 := by cbv
  obtain ⟨⟨a, b, answer, after, hheard, hreadings, -, hsum⟩, halone⟩ :=
    connection_summed_up_alone prompt_script Settings.default 5 busy hacts hgiven
  have hlog : events ((heardAfter 4 quiet).drop 9) = events ((heardAfter 18 busy).drop 9) :=
    halone prompt_script Settings.default 5 quiet _ _ _ hacts' hsame hclock _ _ _ _ hd hd'
  have hat : (heardAfter 18 busy).drop 8 = ⟨.disconnect 2, answer⟩ :: after :=
    congrArg (List.drop 8) hheard
  obtain ⟨hanswer, hafter⟩ := List.cons.inj (hgivenUp.symm.trans hat)
  obtain ⟨e, hlogged, hsums⟩ := hsum (by simpa using hanswer.symm)
  obtain ⟨rfl, rfl⟩ : a = 18446744073709551000 ∧ b = 384 := by simpa using hreadings.symm.trans hshown
  exact ⟨prompt_script, hgiven, hsame, hclock, ⟨e, hafter ▸ hlogged, hsums (by decide)⟩, hlog⟩

end NetBench.Stream.Drain
