import Mathlib
import NetBench.Proofs.Talk.Record
import NetBench.Rehearsal.Connections

/-! What the counters of a rehearsal tell. Whatever its scripts hold and wherever they run out, the
counters are true to the record, as long as no connection is given up that is not open. -/
namespace NetBench.Rehearsal
open NetBench.Stream

variable {Phase : Type}

/-- The call that a request makes, if it is one on the transport. -/
def Call.of? : Request Phase → Option Call
  | .listen address depth => some (.listen address depth)
  | .accept _ => some .accept
  | .read conn _ _ => some (.read conn)
  | .write conn data => some (.write conn data.length)
  | .connect remote => some (.connect remote)
  | .disconnect conn => some (.disconnect conn)
  | .clock | .note _ | .enter _ => none

def Call.length? : Call → Option Nat
  | .write _ length => some length
  | _ => none

def offering : Request Phase → Option (List UInt8)
  | .write _ data => some data
  | _ => none

@[simp] def isAccept : Request Phase → Bool
  | .accept _ => true
  | _ => false

def returning : Act (interface Phase) → Option Nat
  | ⟨.accept _, some (.ok conn)⟩ => some conn
  | ⟨.connect _, some (.ok conn)⟩ => some conn
  | _ => none

def releasing : Act (interface Phase) → Option Nat
  | ⟨.disconnect conn, _⟩ => some conn
  | _ => none

def returned (acts : List (Act (interface Phase))) : List Nat := acts.filterMap returning

def released (acts : List (Act (interface Phase))) : List Nat := acts.filterMap releasing

/-- The connections open after a record: returned and not given up. -/
def standing (acts : List (Act (interface Phase))) : List Nat :=
  (returned acts).filter (· ∉ released acts)

/-- The accepts of a record that were made with a connection open. -/
def overlaps (acts : List (Act (interface Phase))) : Nat :=
  (List.range acts.length).countP fun i =>
    (acts[i]?.any fun x => isAccept x.1) && !(standing (acts.take i)).isEmpty

/-- Never two connections open, and no accept with one open. -/
def Serial (acts : List (Act (interface Phase))) : Prop :=
  (∀ sofar, sofar <+: acts → (standing sofar).length ≤ 1) ∧
    ∀ before x rest, acts = before ++ x :: rest → isAccept x.1 → standing before = []

/-- Only what is open is given up. -/
def Linear (acts : List (Act (interface Phase))) : Prop :=
  ∀ before x rest, acts = before ++ x :: rest → ∀ conn ∈ releasing x, conn ∈ standing before

section
variable {acts : List (Act (interface Phase))} {x : Act (interface Phase)} {conn : Nat}

private theorem forall_split_iff {α : Type} {l : List α} {P : List α → α → Prop} :
    (∀ before x rest, l = before ++ x :: rest → P before x) ↔
      ∀ i : Fin l.length, P (l.take i) l[i] := by
  constructor
  · intro h i
    exact h _ _ (l.drop (i + 1)) (by simp)
  · rintro h before x rest rfl
    simpa using h ⟨before.length, by simp⟩

private theorem filterMap_concat {α β : Type} (f : α → Option β) (l : List α) (a : α) :
    (l ++ [a]).filterMap f = l.filterMap f ++ (f a).toList := by
  cases h : f a <;> simp [h]

theorem returned_concat (acts : List (Act (interface Phase))) (x : Act (interface Phase)) :
    returned (acts ++ [x]) = returned acts ++ (returning x).toList := filterMap_concat _ _ _

theorem released_concat (acts : List (Act (interface Phase))) (x : Act (interface Phase)) :
    released (acts ++ [x]) = released acts ++ (releasing x).toList := filterMap_concat _ _ _

theorem standing_opens (hr : returning x = some conn) (hg : releasing x = none)
    (hnew : conn ∉ released acts) : standing (acts ++ [x]) = standing acts ++ [conn] := by
  simp [standing, returned_concat, released_concat, hr, hg, hnew]

theorem standing_gives (hr : returning x = none) (hg : releasing x = some conn)
    (hnodup : (returned acts).Nodup) : standing (acts ++ [x]) = (standing acts).erase conn := by
  have hopen : (standing acts).Nodup := hnodup.filter _
  rw [hopen.erase_eq_filter, standing, standing, List.filter_filter, returned_concat,
    released_concat, hr, hg, Option.toList_none, List.append_nil]
  exact List.filter_congr fun kept _ => by simp [Bool.and_comm, bne, beq_eq_decide]

theorem standing_stays (hr : returning x = none) (hg : releasing x = none) :
    standing (acts ++ [x]) = standing acts := by
  simp [standing, returned_concat, released_concat, hr, hg]

theorem overlaps_concat (acts : List (Act (interface Phase))) (x : Act (interface Phase)) :
    overlaps (acts ++ [x]) =
      overlaps acts + if isAccept x.1 && !(standing acts).isEmpty then 1 else 0 := by
  rw [overlaps, List.length_append, List.length_singleton, List.range_succ, List.countP_append]
  congr 1
  · refine List.countP_congr fun i hi => ?_
    have hi := List.mem_range.mp hi
    simp [List.getElem?_append_left hi, List.take_append_of_le_length hi.le]
  · simp [List.countP_singleton]

theorem overlaps_eq_zero :
    overlaps acts = 0 ↔ ∀ before x rest, acts = before ++ x :: rest → isAccept x.1 →
      standing before = [] := by
  rw [overlaps, List.countP_eq_zero, forall_split_iff, Fin.forall_iff]
  refine forall_congr' fun i => ?_
  rw [List.mem_range]
  refine forall_congr' fun hi => ?_
  simp [List.getElem?_eq_getElem hi]

theorem linear_iff : Linear acts ↔
    ∀ i : Fin acts.length, ∀ conn ∈ releasing acts[i], conn ∈ standing (acts.take i) :=
  forall_split_iff

instance : Decidable (Linear acts) := decidable_of_iff _ linear_iff.symm

theorem Linear.mono {sofar : List (Act (interface Phase))} (hl : Linear acts)
    (h : sofar <+: acts) : Linear sofar := by
  obtain ⟨rest, rfl⟩ := h
  rintro before x back rfl
  exact hl before x (back ++ rest) (by simp)

end

namespace Connections

/-- Nothing is on record yet. -/
structure Unused (w : Connections) : Prop where
  calls_eq : w.calls = []
  payloads_eq : w.payloads = []
  overlapping_eq : w.overlappingAccepts = 0
  maxLive_eq : w.maxLive = 0
  live_eq : w.live = 0
  opened_eq : w.opened = 0

def after (w : Connections) (requests : List (Request Phase)) : Connections :=
  requests.foldl (fun w r => (answer r w).2) w

def acts : Connections → List (Request Phase) → List (Act (interface Phase))
  | _, [] => []
  | w, r :: requests => ⟨r, (answer r w).1⟩ :: acts (answer r w).2 requests

/-- The counts of open connections from the start until after some requests. -/
def lives (w : Connections) (requests : List (Request Phase)) : Set Nat :=
  {n | ∃ sofar, sofar <+: requests ∧ (w.after sofar).live = n}

variable {w : Connections} {r : Request Phase} {requests : List (Request Phase)}
  {acts : List (Act (interface Phase))} {x : Act (interface Phase)} {conn : Nat}

theorem after_concat (w : Connections) (requests : List (Request Phase)) (r : Request Phase) :
    w.after (requests ++ [r]) = (answer r (w.after requests)).2 := by
  simp [after]

theorem acts_append (w : Connections) (front back : List (Request Phase)) :
    w.acts (front ++ back) = w.acts front ++ (w.after front).acts back := by
  induction front generalizing w with
  | nil => rfl
  | cons r front ih => exact congrArg (_ :: ·) (ih _)

theorem acts_take (w : Connections) (requests : List (Request Phase)) (n : Nat) :
    (w.acts requests).take n = w.acts (requests.take n) := by
  induction requests generalizing w n with
  | nil => simp [Connections.acts]
  | cons r requests ih =>
    cases n with
    | zero => rfl
    | succ n => exact congrArg (_ :: ·) (ih _ n)

theorem prefix_acts {sofar : List (Request Phase)} (h : sofar <+: requests) :
    w.acts sofar <+: w.acts requests := by
  obtain ⟨back, rfl⟩ := h
  exact acts_append w sofar back ▸ List.prefix_append _ _

theorem exists_acts_eq (h : acts <+: w.acts requests) :
    ∃ sofar, sofar <+: requests ∧ w.acts sofar = acts :=
  ⟨requests.take acts.length, List.take_prefix _ _,
    (acts_take w requests acts.length).symm.trans (List.prefix_iff_eq_take.mp h).symm⟩

/-- What a program does on a rehearsal is to make some requests of it. -/
theorem exists_play_eq {α : Type} (t : Program Phase α) (w : Connections) :
    ∃ requests, (Talk.play (handler Phase) t w).acts = w.acts requests ∧
      (Talk.play (handler Phase) t w).world = w.after requests := by
  induction t generalizing w with
  | done a => exact ⟨[], rfl, rfl⟩
  | rest => exact ⟨[], rfl, rfl⟩
  | ask r next ih =>
    cases ha : (answer r w).1 with
    | none =>
      rw [Talk.play_ask_none (h := handler Phase) ha]
      exact ⟨[r], by rw [Connections.acts, ha]; rfl, rfl⟩
    | some a =>
      rw [Talk.play_ask_some (h := handler Phase) ha]
      obtain ⟨requests, hacts, hworld⟩ := ih a (answer r w).2
      exact ⟨r :: requests, by rw [Connections.acts, ha, ← hacts]; rfl, hworld⟩

/-- What a request does to the connections: one is opened and gets the next number, one is given up,
or all stay as they are. -/
inductive Moves (w w' : Connections) (x : Act (interface Phase)) : Prop where
  | opens (returns : returning x = some (w.opened + 1)) (releases : releasing x = none)
      (opened_eq : w'.opened = w.opened + 1) (live_eq : w'.live = w.live + 1)
      (maxLive_eq : w'.maxLive = max w.maxLive (w.live + 1))
  | gives (conn : Nat) (returns : returning x = none) (releases : releasing x = some conn)
      (opened_eq : w'.opened = w.opened) (live_eq : w'.live = w.live - 1)
      (maxLive_eq : w'.maxLive = w.maxLive)
  | stays (returns : returning x = none) (releases : releasing x = none)
      (opened_eq : w'.opened = w.opened) (live_eq : w'.live = w.live)
      (maxLive_eq : w'.maxLive = w.maxLive)

/-- What a request leaves behind. -/
structure Answered (w w' : Connections) (x : Act (interface Phase)) : Prop where
  calls_eq : w'.calls = w.calls ++ (Call.of? x.1).toList
  payloads_eq : w'.payloads = w.payloads ++ (offering x.1).toList
  overlapping_eq : w'.overlappingAccepts =
    w.overlappingAccepts + if isAccept x.1 && w.live != 0 then 1 else 0
  moves : Moves w w' x

def accepting (w : Connections) : Connections :=
  { w.record .accept with
    overlappingAccepts := w.overlappingAccepts + if w.live != 0 then 1 else 0 }

theorem answer_accept (timeout : Option Nat) (w : Connections) :
    answer (.accept timeout : Request Phase) w =
      match w.accepts with
      | [] => (none, w.accepting)
      | .error why :: rest => (some (.error why), { w.accepting with accepts := rest })
      | .ok () :: rest =>
        (some (.ok (w.opened + 1)), { w.accepting with accepts := rest }.establish.2) := by
  have hcount : w.accepting = if (w.record .accept).live = 0 then w.record .accept else
      { w.record .accept with overlappingAccepts := (w.record .accept).overlappingAccepts + 1 } := by
    by_cases hlive : w.live = 0 <;> simp [hlive, record, accepting]
  rw [hcount]
  by_cases hlive : w.live = 0 <;>
    rcases hw : w.accepts with _ | ⟨_ | _, rest⟩ <;> simp [answer, record, establish, hlive, hw]

/-- Whether a connection comes of it or not, a request is counted; one that fails or never completes
touches no connection. -/
theorem answered (r : Request Phase) (w : Connections) :
    Answered w (answer r w).2 ⟨r, (answer r w).1⟩ := by
  have hnil {α : Type} (l : List α) : l = l ++ [] := (List.append_nil l).symm
  cases r with
  | listen address depth =>
    simp only [answer]
    split <;> exact ⟨rfl, hnil _, rfl, .stays rfl rfl rfl rfl rfl⟩
  | accept timeout =>
    rw [answer_accept]
    split
    · exact ⟨rfl, hnil _, rfl, .stays rfl rfl rfl rfl rfl⟩
    · exact ⟨rfl, hnil _, rfl, .stays rfl rfl rfl rfl rfl⟩
    · exact ⟨rfl, hnil _, rfl, .opens rfl rfl rfl rfl rfl⟩
  | connect remote =>
    simp only [answer]
    split
    · exact ⟨rfl, hnil _, rfl, .stays rfl rfl rfl rfl rfl⟩
    · exact ⟨rfl, hnil _, rfl, .opens rfl rfl rfl rfl rfl⟩
  | read conn room timeout =>
    simp only [answer]
    split <;> exact ⟨rfl, hnil _, rfl, .stays rfl rfl rfl rfl rfl⟩
  | write conn data =>
    simp only [answer]
    split <;> exact ⟨rfl, rfl, rfl, .stays rfl rfl rfl rfl rfl⟩
  | disconnect conn => exact ⟨rfl, hnil _, rfl, .gives conn rfl rfl rfl rfl rfl⟩
  | clock => exact ⟨hnil _, hnil _, rfl, .stays rfl rfl rfl rfl rfl⟩
  | note e => exact ⟨hnil _, hnil _, rfl, .stays rfl rfl rfl rfl rfl⟩
  | enter phase => exact ⟨hnil _, hnil _, rfl, .stays rfl rfl rfl rfl rfl⟩

theorem Answered.disconnects_eq {w' : Connections} (ha : Answered w w' x) :
    w'.disconnects = w.disconnects + (releasing x).toList.length := by
  rw [disconnects, ha.calls_eq, List.countP_append]
  obtain ⟨r, answer⟩ := x
  cases r <;> rfl

/-- The counters of a rehearsal that began unused, and its record. -/
structure Tallies (w : Connections) (acts : List (Act (interface Phase))) : Prop where
  returned_eq : returned acts = List.range' 1 w.opened
  released_le : ∀ conn ∈ released acts, conn ≤ w.opened
  opened_eq : w.opened = w.live + w.disconnects
  standing_length : (standing acts).length = w.live
  overlapping_eq : w.overlappingAccepts = overlaps acts

theorem tallies_nil (hw : w.Unused) : Tallies w ([] : List (Act (interface Phase))) where
  returned_eq := by rw [hw.opened_eq]; rfl
  released_le := by simp [released]
  opened_eq := by rw [hw.opened_eq, hw.live_eq, disconnects, hw.calls_eq]; rfl
  standing_length := by rw [hw.live_eq]; rfl
  overlapping_eq := by rw [hw.overlapping_eq]; rfl

theorem Tallies.nodup (h : Tallies w acts) : (returned acts).Nodup :=
  h.returned_eq ▸ List.nodup_range'

theorem Tallies.le_opened (h : Tallies w acts) (hmem : conn ∈ returned acts) : conn ≤ w.opened := by
  rw [h.returned_eq, List.mem_range'_1] at hmem
  omega

theorem Tallies.overlapping_step {w' : Connections} (h : Tallies w acts) (ha : Answered w w' x) :
    w'.overlappingAccepts = overlaps (acts ++ [x]) := by
  have hopen : (w.live != 0) = !(standing acts).isEmpty := by
    rw [← h.standing_length]
    cases standing acts <;> rfl
  rw [ha.overlapping_eq, overlaps_concat, h.overlapping_eq, hopen]

/-- Every act keeps the counters right, if what it gives up is open. -/
theorem Tallies.step {w' : Connections} (h : Tallies w acts) (ha : Answered w w' x)
    (hl : Linear (acts ++ [x])) : Tallies w' (acts ++ [x]) := by
  have hover := h.overlapping_step ha
  have hgiven := ha.disconnects_eq
  have hopened := h.opened_eq
  cases ha.moves with
  | opens hr hg ho hlive hmax =>
    have hnew : w.opened + 1 ∉ released acts := fun hmem => by
      have := h.released_le _ hmem
      omega
    refine ⟨?_, ?_, ?_, ?_, hover⟩
    · rw [returned_concat, hr, h.returned_eq, ho, List.range'_concat]
      simp [Nat.add_comm]
    · intro conn hmem
      rw [released_concat, hg, Option.toList_none, List.append_nil] at hmem
      have := h.released_le conn hmem
      omega
    · rw [hg, Option.toList_none, List.length_nil] at hgiven
      omega
    · rw [standing_opens hr hg hnew, List.length_append, h.standing_length, hlive]
      rfl
  | gives conn hr hg ho hlive hmax =>
    have hmem : conn ∈ standing acts := hl acts x [] rfl conn hg
    -- What is given up is open, so the count does not stop at zero.
    have hpos : 0 < w.live := h.standing_length ▸ List.length_pos_of_mem hmem
    refine ⟨?_, ?_, ?_, ?_, hover⟩
    · rw [returned_concat, hr, ho, h.returned_eq]
      simp
    · intro other hother
      rw [released_concat, hg, List.mem_append] at hother
      rw [ho]
      rcases hother with hold | hnow
      · exact h.released_le other hold
      · have hsame : other = conn := by simpa using hnow
        exact hsame ▸ h.le_opened (List.mem_of_mem_filter hmem)
    · rw [hg, Option.toList_some, List.length_singleton] at hgiven
      omega
    · rw [standing_gives hr hg h.nodup, List.length_erase_of_mem hmem, h.standing_length, hlive]
  | stays hr hg ho hlive hmax =>
    have hreleased : released (acts ++ [x]) = released acts := by simp [released_concat, hg]
    refine ⟨?_, ?_, ?_, ?_, hover⟩
    · rw [returned_concat, hr, ho, h.returned_eq]
      simp
    · rw [hreleased, ho]
      exact h.released_le
    · rw [hg, Option.toList_none, List.length_nil] at hgiven
      omega
    · rw [standing_stays hr hg, h.standing_length, hlive]

/-- The counters are right after every run, by induction on it. -/
theorem Tallies.run (hw : w.Unused) (requests : List (Request Phase))
    (hl : Linear (w.acts requests)) : Tallies (w.after requests) (w.acts requests) := by
  induction requests using List.reverseRecOn with
  | nil => exact tallies_nil hw
  | append_singleton requests r ih =>
    rw [acts_append] at hl ⊢
    rw [after_concat]
    exact (ih (hl.mono (List.prefix_append _ _))).step (answered r _) hl

private theorem log_after {β : Type} {log : Connections → List β} {put : Request Phase → Option β}
    (hstart : log w = []) (hstep : ∀ r w, log (answer r w).2 = log w ++ (put r).toList)
    (requests : List (Request Phase)) : log (w.after requests) = requests.filterMap put := by
  induction requests using List.reverseRecOn with
  | nil => exact hstart
  | append_singleton requests r ih => rw [after_concat, hstep, ih, filterMap_concat]

theorem calls_after (hw : w.Unused) (requests : List (Request Phase)) :
    (w.after requests).calls = requests.filterMap Call.of? :=
  log_after hw.calls_eq (fun r w => (answered r w).calls_eq) requests

theorem payloads_after (hw : w.Unused) (requests : List (Request Phase)) :
    (w.after requests).payloads = requests.filterMap offering :=
  log_after hw.payloads_eq (fun r w => (answered r w).payloads_eq) requests

theorem lengths_after (hw : w.Unused) (requests : List (Request Phase)) :
    (w.after requests).payloads.map List.length = (w.after requests).calls.filterMap Call.length? := by
  rw [payloads_after hw, calls_after hw, List.map_filterMap, List.filterMap_filterMap]
  exact congrArg (List.filterMap · requests) (funext fun r => by cases r <;> rfl)

theorem Answered.maxLive_eq {w' : Connections} (ha : Answered w w' x) (hle : w.live ≤ w.maxLive) :
    w'.maxLive = max w.maxLive w'.live := by
  cases ha.moves with
  | opens _ _ _ hlive hmax => rw [hmax, hlive]
  | gives _ _ _ _ hlive hmax => omega
  | stays _ _ _ hlive hmax => omega

theorem lives_concat (w : Connections) (requests : List (Request Phase)) (r : Request Phase) :
    w.lives (requests ++ [r]) = w.lives requests ∪ {(w.after (requests ++ [r])).live} := by
  ext n
  simp only [lives, List.prefix_concat_iff, Set.mem_ofPred_eq, Set.mem_union,
    Set.mem_singleton_iff]
  constructor
  · rintro ⟨sofar, rfl | hsofar, rfl⟩
    · exact .inr rfl
    · exact .inl ⟨sofar, hsofar, rfl⟩
  · rintro (⟨sofar, hsofar, rfl⟩ | rfl)
    · exact ⟨sofar, .inr hsofar, rfl⟩
    · exact ⟨_, .inl rfl, rfl⟩

/-- The high-water mark is the largest count there was, whatever is given up how often. -/
theorem maxLive_isGreatest (hw : w.Unused) (requests : List (Request Phase)) :
    IsGreatest (w.lives requests) (w.after requests).maxLive := by
  induction requests using List.reverseRecOn with
  | nil =>
    have heq : w.live = w.maxLive := hw.live_eq.trans hw.maxLive_eq.symm
    refine ⟨⟨[], List.prefix_rfl, heq⟩, ?_⟩
    rintro n ⟨sofar, hsofar, rfl⟩
    rw [List.prefix_nil.mp hsofar]
    exact heq.le
  | append_singleton requests r ih =>
    have hle := ih.2 ⟨requests, List.prefix_rfl, rfl⟩
    have hmax := (answered r (w.after requests)).maxLive_eq hle
    rw [← after_concat] at hmax
    rw [lives_concat, hmax]
    exact ih.union isGreatest_singleton

/-- What the counters say of the number of open connections is so on record. -/
theorem maxLive_le_one_iff (hw : w.Unused) (hl : Linear (w.acts requests)) :
    (w.after requests).maxLive ≤ 1 ↔
      ∀ sofar, sofar <+: w.acts requests → (standing sofar).length ≤ 1 := by
  obtain ⟨⟨most, hmost, hlive⟩, hbound⟩ := maxLive_isGreatest hw requests
  have hstanding {sofar : List (Request Phase)} (h : sofar <+: requests) :
      (standing (w.acts sofar)).length = (w.after sofar).live :=
    (Tallies.run hw sofar (hl.mono (prefix_acts h))).standing_length
  constructor
  · intro hle acts hacts
    obtain ⟨sofar, hsofar, rfl⟩ := exists_acts_eq hacts
    rw [hstanding hsofar]
    exact (hbound ⟨sofar, hsofar, rfl⟩).trans hle
  · intro hserial
    rw [← hlive, ← hstanding hmost]
    exact hserial _ (prefix_acts hmost)

/-- What the counters of a rehearsal tell after some requests. -/
structure Sound (w : Connections) (requests : List (Request Phase)) : Prop where
  /-- Numbers count from 1, and none comes twice. -/
  numbered : returned (w.acts requests) = List.range' 1 (returned (w.acts requests)).length
  live_eq : ∀ sofar, sofar <+: requests →
    (w.after sofar).live + (w.after sofar).disconnects = (returned (w.acts sofar)).length
  live_pos : ∀ before conn rest, requests = before ++ .disconnect conn :: rest →
    0 < (w.after before).live
  maxLive_greatest : IsGreatest (w.lives requests) (w.after requests).maxLive
  overlapping_eq : (w.after requests).overlappingAccepts = overlaps (w.acts requests)
  calls_eq : (w.after requests).calls = requests.filterMap Call.of?
  payloads_eq : (w.after requests).payloads = requests.filterMap offering
  lengths_eq : (w.after requests).payloads.map List.length =
    (w.after requests).calls.filterMap Call.length?
  serial_iff : (w.after requests).maxLive ≤ 1 ∧ (w.after requests).overlappingAccepts = 0 ↔
    Serial (w.acts requests)

/-- Whatever the scripts hold and whatever is asked, the counters are true to the record, as long as
no connection is given up that is not open. -/
theorem counters_true_to_record (hw : w.Unused) (hl : Linear (w.acts requests)) :
    Sound w requests := by
  have hrun := Tallies.run hw requests hl
  refine ⟨?_, ?_, ?_, maxLive_isGreatest hw requests, hrun.overlapping_eq, calls_after hw requests,
    payloads_after hw requests, lengths_after hw requests, ?_⟩
  · rw [hrun.returned_eq, List.length_range']
  · intro sofar hsofar
    have hsofar := Tallies.run hw sofar (hl.mono (prefix_acts hsofar))
    rw [hsofar.returned_eq, List.length_range', hsofar.opened_eq]
  · rintro before conn rest rfl
    have hopen : conn ∈ standing (w.acts before) := hl _ _ _ (acts_append w before _) conn rfl
    have hbefore := Tallies.run hw before (hl.mono (prefix_acts (List.prefix_append _ _)))
    exact hbefore.standing_length ▸ List.length_pos_of_mem hopen
  · rw [Serial, maxLive_le_one_iff hw hl, hrun.overlapping_eq, overlaps_eq_zero]

/-- Everything fails once, and two connections can be accepted. -/
def strained : Connections where
  listenError := some (.io (.os .addressInUse))
  connectError := some .timedOut
  accepts := [.ok (), .error .timedOut, .ok ()]
  reads := [.ok 900, .error .closed]
  writes := [.ok 1, .error .closed]

/-- The second connection is accepted while the first is open, the third is made while the second
is, and the last accept waits for ever. -/
def overlapping : List (Request Unit) :=
  let remote : Endpoint := ⟨.v4 .unspecified, 12345⟩
  [.listen remote 1, .accept none, .write 1 [72, 101], .connect remote, .accept (some 5),
    .accept none, .read 1 128 none, .disconnect 1, .write 2 [], .connect remote, .disconnect 3,
    .disconnect 2, .accept none]

theorem counters_true_to_record_overlapping :
    strained.Unused ∧ Linear (strained.acts overlapping) ∧
      returned (strained.acts overlapping) = [1, 2, 3] ∧
      (strained.after overlapping).maxLive = 2 ∧
      (strained.after overlapping).overlappingAccepts = 2 ∧
      (strained.after overlapping).live = 0 ∧ Sound strained overlapping :=
  have hunused : strained.Unused := ⟨rfl, rfl, rfl, rfl, rfl, rfl⟩
  have hlinear : Linear (strained.acts overlapping) := by decide
  ⟨hunused, hlinear, by decide, rfl, rfl, rfl, counters_true_to_record hunused hlinear⟩

end Connections
end NetBench.Rehearsal
