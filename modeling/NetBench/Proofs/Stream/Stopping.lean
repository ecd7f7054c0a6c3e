import Mathlib
import NetBench.Proofs.Stream.Agreement
import NetBench.Proofs.Stream.Sending

/-! Where a stream stops. It goes on below its byte limit, and stops at the first write that reaches
it or fails; what the greeting took does not count. All this is for streams whose total can be
counted. -/
namespace NetBench.Stream.Sender
open Talk Rate

def took (counts : List Nat) : List (Option (Except Fault Nat)) := counts.map fun n => some (.ok n)

@[simp] theorem took_append (front back : List Nat) :
    took (front ++ back) = took front ++ took back := List.map_append

@[simp] theorem length_took (counts : List Nat) : (took counts).length = counts.length :=
  List.length_map _

/-- So many bytes, taken by one write or more, reach a limit. -/
def Reaches (limit : UInt64) (counts : List Nat) : Prop := counts ≠ [] ∧ limit.toNat ≤ counts.sum

/-- Writes that took so many bytes, if there were any, have not reached the byte limit. -/
def Below (s : Settings) (counts : List Nat) : Prop :=
  counts ≠ [] → ∀ limit, s.maxBytes = some limit → counts.sum < limit.toNat

/-- What the writes take fits into a count, up to any of them. -/
def FitsCount (results : List (Option (Except Fault Nat))) : Prop :=
  ∀ counts, took counts <+: results → counts.sum < 2 ^ 64

/-- Whether an event tells how a stream ended. -/
def concludes (e : Event) : Bool :=
  e.message == "Byte limit reached" || e.message == "Errored on write"

def conclusions (acts : List (Act (interface Phase))) : List Event := (events acts).filter concludes

/-- How a stream goes on after writes that took `counts`, by the answers to all its writes, by what
it logs of its end, and by how the session ends. -/
inductive Stopped (s : Settings) (depth : Nat) (counts : List Nat) :
    List (Option (Except Fault Nat)) → List Event → Ending (Except Failure Nat) → Prop where
  | unfinished (h : counts.length = depth) : Stopped s depth counts (took counts) [] .unfinished
  | stalled : Stopped s depth counts (took counts ++ [none]) [] .waiting
  | failed (total unreported : UInt64) (why : Fault) (ht : total.toNat = counts.sum) :
      Stopped s depth counts (took counts ++ [some (.error why)])
        [.writeFailed total unreported why] (.returned (.error (.write why)))
  | limited (total : UInt64) (taken : Nat) (ht : total.toNat = counts.sum + taken)
      (h : Reached s total) :
      Stopped s depth counts (took (counts ++ [taken])) [.limitReached total] (.returned (.ok taken))

/-- How a byte limit ends a stream, by the answers to its writes, by what is logged of its end, and
by how the session ends. -/
structure StopsAt (limit : UInt64) (depth : Nat) (results : List (Option (Except Fault Nat)))
    (log : List Event) (ending : Ending (Except Failure Nat)) : Prop where
  /-- Writes that reach the limit are all there are, and the last of them is the one that did. -/
  of_reaches : ∀ counts, took counts <+: results → Reaches limit counts →
    results = took counts ∧ (∀ fewer, fewer <+: counts → Reaches limit fewer → fewer = counts) ∧
      (∃ total, log = [.limitReached total] ∧ total.toNat = counts.sum) ∧
      ∃ last, counts.getLast? = some last ∧ ending = .returned (.ok last)
  /-- If every write takes something, there are no more writes than the limit has bytes. -/
  of_progress : (∀ r ∈ results, ∃ taken > 0, r = some (.ok taken)) →
    results.length ≤ max 1 limit.toNat ∧
      (max 1 limit.toNat ≤ depth → ∃ taken, ending = .returned (.ok taken))
  /-- If every write takes equally much, such as the whole buffer, their number is known. -/
  of_equal : ∀ size > 0, (∀ r ∈ results, r = some (.ok size)) →
    max 1 (limit.toNat ⌈/⌉ size) ≤ depth →
    results.length = max 1 (limit.toNat ⌈/⌉ size) ∧ ending = .returned (.ok size)

/-- How a stream ends that no byte limit ends: at a write that fails, at one that is never answered,
or not within the depth it is unfolded to. -/
def EndsBelow (depth : Nat) (results : List (Option (Except Fault Nat))) (log : List Event)
    (ending : Ending (Except Failure Nat)) : Prop :=
  (∃ counts total unreported why, results = took counts ++ [some (.error why)] ∧
      log = [.writeFailed total unreported why] ∧ total.toNat = counts.sum ∧
      ending = .returned (.error (.write why))) ∨
    (∃ counts, results = took counts ++ [none] ∧ log = [] ∧ ending = .waiting) ∨
    ∃ counts, results = took counts ∧ counts.length = depth ∧ log = [] ∧ ending = .unfinished

variable {σ : Type} {s : Settings} {conn depth greeted : Nat} {p : Progress}
  {acts : List (Act (interface Phase))} {results : List (Option (Except Fault Nat))}
  {ending : Ending (Except Failure Nat)}

section
variable (front back : List (Act (interface Phase)))

@[simp] theorem conclusions_append :
    conclusions (front ++ back) = conclusions front ++ conclusions back := by
  simp [conclusions]

end

theorem Progress.total_foldl_after (p : Progress) (ts : List Turn) :
    (ts.foldl Progress.after p).total = addBytes p.total (ts.map Turn.taken).sum := by
  induction ts generalizing p with
  | nil => exact (addBytes_zero p.total).symm
  | cons t ts ih =>
    rw [List.foldl_cons, ih, List.map_cons, List.sum_cons, addBytes_add]
    rfl

private theorem answers_opening (p : Progress) (now : UInt64) : answers (p.opening now) = [] := by
  cases h : (p.meter.poll now).1 <;> simp [Progress.opening, h]

private theorem conclusions_opening (p : Progress) (now : UInt64) :
    conclusions (p.opening now) = [] := by
  cases h : (p.meter.poll now).1 with
  | none => simp [Progress.opening, conclusions, h]
  | some report =>
    simp [Progress.opening, conclusions, h]
    rfl

private theorem answers_turns (p : Progress) (ts : List Turn) :
    answers (turns s conn p ts) = took (ts.map Turn.taken) := by
  induction ts generalizing p with
  | nil => rfl
  | cons t ts ih =>
    rw [turns, answers_append, answers_opening, answers_cons, ih]
    rfl

private theorem conclusions_turns (p : Progress) (ts : List Turn) :
    conclusions (turns s conn p ts) = [] := by
  induction ts generalizing p with
  | nil => rfl
  | cons t ts ih =>
    rw [turns, conclusions_append, conclusions_opening]
    exact ih _

private theorem stopped_streamed (hp : p.total = 0) (h : Streamed s conn depth p acts ending)
    (hc : FitsCount (answers acts)) :
    ∃ counts, Below s counts ∧
      Stopped s depth counts (answers acts) (conclusions acts) ending := by
  obtain ⟨ts, hts, hstream⟩ := h
  have hturns : took (ts.map Turn.taken) <+: answers acts := by
    rcases hstream with ⟨-, rfl, -⟩ | ⟨last, rfl, -⟩ <;> simp [answers_turns]
  have htotal : (ts.foldl Progress.after p).total.toNat = (ts.map Turn.taken).sum := by
    rw [p.total_foldl_after, hp, toNat_addBytes]
    · exact Nat.zero_add _
    · exact (Nat.zero_add _).trans_lt (hc _ hturns)
  have hbelow : Below s (ts.map Turn.taken) := by
    intro hn limit hl
    rw [← htotal, ← UInt64.lt_iff_toNat_lt, ← UInt64.not_le]
    exact fun hle => hts (mt (congrArg _) hn) ⟨limit, hl, hle⟩
  refine ⟨ts.map Turn.taken, hbelow, ?_⟩
  rcases hstream with ⟨hlen, rfl, rfl⟩ | ⟨last, rfl, hf⟩
  · rw [answers_turns, conclusions_turns]
    exact .unfinished (by rw [List.length_map, hlen])
  · rw [answers_append, answers_turns] at hc ⊢
    rw [conclusions_append, conclusions_turns]
    cases hf with
    | stalled now =>
      rw [answers_append, answers_opening, conclusions_append, conclusions_opening]
      exact .stalled
    | failed now why =>
      rw [answers_append, answers_opening, conclusions_append, conclusions_opening]
      exact .failed _ _ why htotal
    | limited now taken hl =>
      rw [answers_append, answers_opening] at hc ⊢
      rw [conclusions_append, conclusions_opening]
      have hall : (ts.map Turn.taken ++ [taken]).sum < 2 ^ 64 := hc _ (by simp [took])
      rw [List.sum_append, List.sum_singleton, ← htotal] at hall
      have hs : Stopped s depth _ _ _ _ := .limited _ taken (htotal ▸ toNat_addBytes hall) hl
      rwa [took_append] at hs

/-- A session that gets its greeting through and may give up its connection is one of a stream that
stops. -/
theorem stopped_sessioned (h : Sessioned s depth acts ending)
    (hr : ∀ conn, ⟨.disconnect conn, none⟩ ∉ acts)
    (hg : answers acts = some (.ok greeted) :: results) (hc : FitsCount results) :
    ∃ counts, Below s counts ∧ Stopped s depth counts results (conclusions acts) ending := by
  cases divided_sessioned h with
  | unstreamed hn => exact absurd hg (hn.2 greeted results)
  | @streamed remote conn first start stream back _ _ hs hb =>
    have hresults (ha : answers back = []) : answers stream = results := by
      rw [answers_append, answers_append, ha, List.append_nil] at hg
      exact (List.cons.inj hg).2
    have hstop (ha : answers back = []) := stopped_streamed rfl hs (by rwa [hresults ha])
    have hlog (hc : conclusions back = []) : conclusions stream =
        conclusions (preamble s remote conn first start ++ stream ++ back) := by
      rw [conclusions_append, conclusions_append, hc, List.append_nil]
      rfl
    cases hb with
    | parted =>
      obtain ⟨counts, hcounts, hstopped⟩ := hstop rfl
      rw [hresults rfl, hlog rfl] at hstopped
      exact ⟨counts, hcounts, hstopped⟩
    | parting => exact absurd (List.mem_append_right _ (.head _)) (hr conn)
    | streaming =>
      obtain ⟨counts, hcounts, hstopped⟩ := hstop rfl
      rw [hresults rfl, hlog rfl] at hstopped
      exact ⟨counts, hcounts, hstopped⟩

private theorem took_prefix_iff {counts more : List Nat} :
    took counts <+: took more ↔ counts <+: more := by
  apply List.prefix_map_iff_of_injective
  intro n m h
  simpa using h

private theorem took_prefix_concat {counts more : List Nat} {last : Option (Except Fault Nat)}
    (hl : ∀ n, last ≠ some (.ok n)) (h : took counts <+: took more ++ [last]) : counts <+: more := by
  rcases List.prefix_concat_iff.mp h with heq | hp
  · have hmem : last ∈ took counts := by simp [heq]
    obtain ⟨n, -, hn⟩ := List.mem_map.mp hmem
    exact absurd hn.symm (hl n)
  · exact took_prefix_iff.mp hp

section
variable {limit : UInt64} {counts more : List Nat} {log : List Event}

private theorem not_reaches_of_fewer (hb : Below s more)
    (hl : s.maxBytes = some limit) (hp : counts <+: more) : ¬Reaches limit counts := by
  rintro ⟨hne, hle⟩
  have hmore : more ≠ [] := by
    rintro rfl
    exact hne (List.prefix_nil.mp hp)
  have hsum : counts.sum ≤ more.sum := hp.sublist.sum_le_sum fun _ _ => Nat.zero_le _
  exact (hb hmore limit hl).not_ge (hle.trans hsum)

private theorem Stopped.of_reaches (h : Stopped s depth more results log ending)
    (hb : Below s more) (hl : s.maxBytes = some limit)
    (hp : took counts <+: results) (hr : Reaches limit counts) :
    results = took counts ∧ (∀ fewer, fewer <+: counts → Reaches limit fewer → fewer = counts) ∧
      (∃ total, log = [.limitReached total] ∧ total.toNat = counts.sum) ∧
      ∃ last, counts.getLast? = some last ∧ ending = .returned (.ok last) := by
  cases h with
  | unfinished => exact absurd hr (not_reaches_of_fewer hb hl (took_prefix_iff.mp hp))
  | stalled => exact absurd hr (not_reaches_of_fewer hb hl (took_prefix_concat (by simp) hp))
  | failed => exact absurd hr (not_reaches_of_fewer hb hl (took_prefix_concat (by simp) hp))
  | limited total taken ht _ =>
    rcases List.prefix_concat_iff.mp (took_prefix_iff.mp hp) with rfl | hp
    · refine ⟨rfl, ?_, ⟨total, rfl, by simpa using ht⟩, taken, by simp, rfl⟩
      intro fewer hfewer hreach
      rcases List.prefix_concat_iff.mp hfewer with rfl | hfewer
      · rfl
      · exact absurd hreach (not_reaches_of_fewer hb hl hfewer)
    · exact absurd hr (not_reaches_of_fewer hb hl hp)

private theorem Stopped.of_below (h : Stopped s depth more results log ending)
    (hb : ∀ limit counts, s.maxBytes = some limit → took counts <+: results → ¬Reaches limit counts) :
    EndsBelow depth results log ending := by
  cases h with
  | unfinished h => exact .inr (.inr ⟨more, rfl, h, rfl, rfl⟩)
  | stalled => exact .inr (.inl ⟨more, rfl, rfl, rfl⟩)
  | failed total unreported why ht =>
    exact .inl ⟨more, total, unreported, why, rfl, rfl, ht, rfl⟩
  | limited total taken ht h =>
    obtain ⟨limit, hl, hle⟩ := h
    rw [UInt64.le_iff_toNat_le, ht] at hle
    have hreaches : Reaches limit (more ++ [taken]) := ⟨by simp, by simpa using hle⟩
    exact absurd hreaches (hb limit _ hl (List.prefix_refl _))

private theorem Stopped.of_unlimited (h : Stopped s depth more results log ending)
    (hl : s.maxBytes = none) (taken : Nat) : ending ≠ .returned (.ok taken) := by
  cases h with
  | limited _ _ _ h =>
    obtain ⟨limit, hlimit, -⟩ := h
    rw [hl] at hlimit
    cases hlimit
  | _ => nofun

private theorem Below.eq_nil_or_lt (hb : Below s more) (hl : s.maxBytes = some limit) :
    more = [] ∨ more.sum < limit.toNat := by
  by_cases hn : more = []
  · exact .inl hn
  · exact .inr (hb hn limit hl)

private theorem Stopped.subset (h : Stopped s depth more results log ending) : took more ⊆ results := by
  cases h with
  | unfinished => exact List.Subset.refl _
  | stalled | failed => exact List.subset_append_left _ _
  | limited _ taken =>
    rw [took_append]
    exact List.subset_append_left _ _

private theorem Stopped.of_successes (h : Stopped s depth more results log ending)
    (hr : ∀ r ∈ results, ∃ taken, r = some (.ok taken)) {bound : Nat} (hb : more.length < bound) :
    results.length ≤ bound ∧ (bound ≤ depth → ∃ total taken, results = took (more ++ [taken]) ∧
      total.toNat = more.sum + taken ∧ Reached s total ∧ ending = .returned (.ok taken)) := by
  cases h with
  | unfinished hlen =>
    rw [length_took]
    exact ⟨hb.le, fun hd => absurd hb (by rw [hlen]; exact hd.not_gt)⟩
  | stalled =>
    obtain ⟨_, hnone⟩ := hr none (by simp)
    cases hnone
  | failed _ _ why =>
    obtain ⟨_, hfailed⟩ := hr (some (.error why)) (by simp)
    cases hfailed
  | limited total taken ht h =>
    refine ⟨?_, fun _ => ⟨total, taken, rfl, ht, h, rfl⟩⟩
    rw [length_took, List.length_append]
    exact hb

private theorem length_le_sum (h : ∀ r ∈ took counts, ∃ taken > 0, r = some (.ok taken)) :
    counts.length ≤ counts.sum := by
  apply List.length_le_sum_of_one_le
  intro n hn
  obtain ⟨taken, hpos, heq⟩ := h _ (List.mem_map_of_mem hn)
  obtain rfl : n = taken := by simpa using heq
  exact hpos

private theorem Stopped.of_progress (h : Stopped s depth more results log ending)
    (hb : Below s more) (hl : s.maxBytes = some limit)
    (hp : ∀ r ∈ results, ∃ taken > 0, r = some (.ok taken)) :
    results.length ≤ max 1 limit.toNat ∧
      (max 1 limit.toNat ≤ depth → ∃ taken, ending = .returned (.ok taken)) := by
  have hlt : more.length < max 1 limit.toNat := by
    rcases hb.eq_nil_or_lt hl with rfl | hlt
    · exact lt_max_of_lt_left Nat.zero_lt_one
    · exact lt_max_of_lt_right ((length_le_sum fun r hr => hp r (h.subset hr)).trans_lt hlt)
  have hok : ∀ r ∈ results, ∃ taken, r = some (.ok taken) := by
    intro r hr
    obtain ⟨taken, -, htaken⟩ := hp r hr
    exact ⟨taken, htaken⟩
  obtain ⟨hle, hend⟩ := h.of_successes hok hlt
  refine ⟨hle, fun hd => ?_⟩
  obtain ⟨_, taken, -, -, -, hending⟩ := hend hd
  exact ⟨taken, hending⟩

/-- Where every write takes equally much, the limit is reached by the least number of writes that
makes so many bytes. -/
private theorem Stopped.of_equal (h : Stopped s depth more results log ending)
    (hb : Below s more) (hl : s.maxBytes = some limit) {size : Nat}
    (hs : 0 < size) (hr : ∀ r ∈ results, r = some (.ok size))
    (hd : max 1 (limit.toNat ⌈/⌉ size) ≤ depth) :
    results.length = max 1 (limit.toNat ⌈/⌉ size) ∧ ending = .returned (.ok size) := by
  have hsum : more.sum = size * more.length := by
    have hsize : ∀ n ∈ more, n = size := by
      intro n hn
      simpa using hr _ (h.subset (List.mem_map_of_mem hn))
    rw [List.eq_replicate_of_mem hsize, List.sum_replicate, List.length_replicate, smul_eq_mul,
      Nat.mul_comm]
  have hlt : more.length < max 1 (limit.toNat ⌈/⌉ size) := by
    rcases hb.eq_nil_or_lt hl with rfl | hlt
    · exact lt_max_of_lt_left Nat.zero_lt_one
    · rw [hsum] at hlt
      exact lt_max_of_lt_right (lt_of_not_ge fun hc => hlt.not_ge ((ceilDiv_le_iff_le_mul hs).mp hc))
  obtain ⟨hle, hend⟩ := h.of_successes (fun r hmem => ⟨size, hr r hmem⟩) hlt
  obtain ⟨total, taken, rfl, ht, ⟨limit', hl', hreached⟩, rfl⟩ := hend hd
  obtain rfl : taken = size := by simpa using hr (some (.ok taken)) (by simp [took])
  obtain rfl : limit' = limit := Option.some.inj (hl'.symm.trans hl)
  have hceil : limit'.toNat ⌈/⌉ taken ≤ more.length + 1 := by
    rw [ceilDiv_le_iff_le_mul hs, Nat.mul_succ, ← hsum, ← ht]
    exact UInt64.le_iff_toNat_le.mp hreached
  rw [length_took, List.length_append] at hle ⊢
  exact ⟨le_antisymm hle (max_le (Nat.le_add_left 1 _) hceil), rfl⟩

end

/-- Once its greeting is taken, a session stops at the first write of filler that reaches the byte
limit, and at no other write that succeeds; how much the greeting took does not count. What the
writes take is to fit into the count of it. -/
theorem stream_stops_at_limit {h : Handler (interface Phase) σ} (hp : h.Within Prompt) (s : Settings)
    (depth : Nat) (w : σ) :
    let run := play h (session s depth) w
    (∀ conn, ⟨.disconnect conn, none⟩ ∉ run.acts) →
    answers run.acts = some (.ok greeted) :: results → FitsCount results →
    (∀ limit, s.maxBytes = some limit →
      StopsAt limit depth results (conclusions run.acts) run.ending) ∧
    ((∀ limit counts, s.maxBytes = some limit → took counts <+: results → ¬Reaches limit counts) →
      EndsBelow depth results (conclusions run.acts) run.ending) ∧
    (s.maxBytes = none → ∀ taken, run.ending ≠ .returned (.ok taken)) := by
  intro run hr hg hc
  obtain ⟨counts, hb, hstopped⟩ :=
    stopped_sessioned (records_session (records_play hp (session s depth) w)) hr hg hc
  refine ⟨fun limit hl => ?_, hstopped.of_below, hstopped.of_unlimited⟩
  exact
    { of_reaches := fun _ hpre hreach => hstopped.of_reaches hb hl hpre hreach
      of_progress := hstopped.of_progress hb hl
      of_equal := fun _ hs he hd => hstopped.of_equal hb hl hs he hd }

/-- It takes the greeting and then less than the buffer, once nothing at all. -/
def idleWrite : Script.Connections where
  listens := []
  accepts := []
  connects := []
  reads := []
  writes := [.now (.ok .full), .now (.ok (.count 2)), .now (.ok (.count 0)), .now (.ok (.count 3)),
    .now (.ok (.count 9))]
  clock := Clock.stepping 0 1000

theorem stream_stops_at_limit_idleWrite :
    let run := play (Script.Connections.handler Phase)
      (session { Settings.default with maxBytes := some 5 } 9) idleWrite
    answers run.acts = some (.ok 7) :: took [2, 0, 3] ∧ Reaches 5 [2, 0, 3] ∧
      (∀ fewer, fewer <+: [2, 0, 3] → Reaches 5 fewer → fewer = [2, 0, 3]) ∧
      conclusions run.acts = [.limitReached 5] ∧ run.ending = .returned (.ok 3) := by
  intro run
  have hanswers : answers run.acts = some (.ok 7) :: took [2, 0, 3] := rfl
  have hreaches : Reaches 5 [2, 0, 3] := ⟨by simp, by decide⟩
  have hfits : FitsCount (took [2, 0, 3]) := fun counts hpre =>
    ((took_prefix_iff.mp hpre).sublist.sum_le_sum fun _ _ => Nat.zero_le _).trans_lt (by decide)
  obtain ⟨hstops, -⟩ := stream_stops_at_limit prompt_script _ 9 idleWrite
    (released_script _ idleWrite) hanswers hfits
  obtain ⟨-, hleast, ⟨total, hlog, htotal⟩, last, hlast, hending⟩ :=
    (hstops 5 rfl).of_reaches [2, 0, 3] (List.prefix_refl _) hreaches
  obtain rfl : 3 = last := Option.some.inj hlast
  obtain rfl : total = 5 := UInt64.toNat_inj.mp htotal
  exact ⟨hanswers, hreaches, hleast, hlog, hending⟩

end NetBench.Stream.Sender
