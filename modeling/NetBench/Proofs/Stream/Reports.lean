import Mathlib
import NetBench.Proofs.Settings.Layering
import NetBench.Proofs.Stream.Accounts
import NetBench.Proofs.Talk.Throughout

/-! When a stream reports, and what. Before every write it looks at the clock once; it reports what
was taken since the last report if an interval has passed since then. -/
namespace NetBench.Stream.Sender
open Talk Rate

/-- A write of filler: what the clock showed before it, the report that this led to, and its answer. -/
structure Lap where
  now : UInt64
  report : Option Report
  answer : Option (Except Fault Nat)

def Lap.acts (s : Settings) (conn : Nat) (lap : Lap) : List (Act (interface Phase)) :=
  ⟨.clock, some lap.now⟩ ::
    (lap.report.toList.map fun report => ⟨.note (.sendSpeed report), some ()⟩) ++
    [⟨.write conn (filler s), lap.answer⟩]

def counted : Option (Except Fault Nat) → Option Nat
  | some (.ok taken) => some taken
  | _ => none

/-- What the laps took whose writes succeeded. -/
def counts (laps : List Lap) : List Nat := laps.filterMap fun lap => counted lap.answer

/-- The report that is due, or none before the interval is over. The clock may have wrapped since,
and so has the count if there were too many bytes for it. -/
def due (interval since now : UInt64) (bytes : Nat) : Option Report :=
  if interval ≤ now - since then some ⟨bytes.toUInt64, now - since⟩ else none

/-- Every lap reports what is due: since the start if there was no report yet, else since the last
report, with what its own write took and the writes after it. -/
def Timed (interval start : UInt64) (laps : List Lap) : Prop :=
  ∀ before lap after, laps = before ++ lap :: after →
    ((∀ l ∈ before, l.report = none) → lap.report = due interval start lap.now (counts before).sum) ∧
    ∀ earlier last since, before = earlier ++ last :: since → last.report ≠ none →
      (∀ l ∈ since, l.report = none) →
      lap.report = due interval last.now lap.now (counts (last :: since)).sum

@[simp] def speed : Event → Option Report
  | .sendSpeed report => some report
  | _ => none

def reports (acts : List (Act (interface Phase))) : List Report := (events acts).filterMap speed

/-- If the write of a lap failed, that was logged. -/
def FailureLogged (laps : List Lap) (log : List Event) : Prop :=
  ∀ why, some (.error why) ∈ laps.map Lap.answer →
    ∃ total unreported, .writeFailed total unreported why ∈ log

/-- A record of a stream that took these laps. There are no other readings, reports and writes in it
but the first reading and the greeting; a write that failed is logged. -/
structure Lapped (s : Settings) (conn greeted : Nat) (start : UInt64) (laps : List Lap)
    (acts : List (Act (interface Phase))) : Prop where
  acts_eq : ∃ front back, acts = front ++ ⟨.enter .streaming, some ()⟩ :: ⟨.clock, some start⟩ ::
    (laps.flatMap (Lap.acts s conn) ++ back)
  readings_eq : readings acts = (start :: laps.map Lap.now).map some
  answers_eq : answers acts = some (.ok greeted) :: laps.map Lap.answer
  reports_eq : reports acts = laps.filterMap Lap.report
  failureLogged : FailureLogged laps (events acts)

def Lap.metered (m : Meter) (lap : Lap) : Meter :=
  (m.poll lap.now).2.record ((counted lap.answer).getD 0)

/-- Laps whose reports are those of a meter. -/
def Metered (m : Meter) (laps : List Lap) : Prop :=
  Throughout (fun m lap => lap.report = (m.poll lap.now).1) Lap.metered m laps

variable {σ : Type} {s : Settings} {conn depth greeted : Nat} {p : Progress} {m : Meter}
  {acts : List (Act (interface Phase))} {laps : List Lap}

section
variable (lap : Lap) (x : Act (interface Phase)) (front back : List (Act (interface Phase)))

theorem counts_cons (laps : List Lap) :
    counts (lap :: laps) = (counted lap.answer).toList ++ counts laps := by
  rw [counts, List.filterMap_cons]
  cases counted lap.answer <;> rfl

@[simp] theorem reports_nil : reports [] = [] := rfl

@[simp] theorem reports_cons :
    reports (x :: back) = (x.1.event?.bind speed).toList ++ reports back := by
  rw [reports, events_cons, List.filterMap_append]
  cases x.1.event? with
  | none => rfl
  | some e => cases e <;> rfl

@[simp] theorem reports_append : reports (front ++ back) = reports front ++ reports back := by
  simp [reports]

end

private theorem poll_eq_due {bytes : Nat} (hm : m.pending = bytes.toUInt64) (now : UInt64) :
    (m.poll now).1 = due m.interval m.start now bytes := by
  rcases m.poll_cases now with ⟨hp, hlt⟩ | ⟨hp, hle⟩
  · rw [hp, due, if_neg (UInt64.not_le.mpr hlt)]
  · rw [hp, due, if_pos hle, hm]

private theorem interval_metered (m : Meter) (lap : Lap) : (lap.metered m).interval = m.interval := by
  rcases m.poll_cases lap.now with ⟨hp, -⟩ | ⟨hp, -⟩ <;> rw [Lap.metered, hp] <;> rfl

private theorem interval_foldl (m : Meter) (laps : List Lap) :
    (laps.foldl Lap.metered m).interval = m.interval := by
  induction laps generalizing m with
  | nil => rfl
  | cons lap laps ih => rw [List.foldl_cons, ih, interval_metered]

private theorem sum_toList (n : Option Nat) : n.toList.sum = n.getD 0 := by
  cases n <;> simp

private theorem metered_of_report {lap : Lap} (h : lap.report = (m.poll lap.now).1)
    (hr : lap.report ≠ none) :
    lap.metered m = ⟨m.interval, lap.now, ((counted lap.answer).getD 0).toUInt64⟩ ∧
      lap.report.map Report.bytes = some m.pending := by
  rw [h] at hr ⊢
  rcases m.poll_cases lap.now with ⟨hp, -⟩ | ⟨hp, -⟩
  · simp [hp] at hr
  · rw [Lap.metered, hp]
    exact ⟨congrArg (Meter.mk _ _) (zero_addBytes _), rfl⟩

private theorem metered_of_none {lap : Lap} (h : lap.report = (m.poll lap.now).1)
    (hr : lap.report = none) : lap.metered m = m.record ((counted lap.answer).getD 0) := by
  rw [h] at hr
  rcases m.poll_cases lap.now with ⟨hp, -⟩ | ⟨hp, -⟩
  · rw [Lap.metered, hp]
  · simp [hp] at hr

private theorem foldl_of_none (h : Metered m laps) (hn : ∀ lap ∈ laps, lap.report = none) :
    laps.foldl Lap.metered m = { m with pending := addBytes m.pending (counts laps).sum } := by
  induction laps generalizing m with
  | nil => simp [counts]
  | cons lap laps ih =>
    obtain ⟨hlap, hrest⟩ := h
    obtain ⟨hnone, hnones⟩ := List.forall_mem_cons.mp hn
    rw [List.foldl_cons, ih hrest hnones, metered_of_none hlap hnone, counts_cons, List.sum_append,
      sum_toList, addBytes_add]
    rfl

private theorem timed_of_metered {interval start : UInt64}
    (h : Metered (Meter.new interval start) laps) : Timed interval start laps := by
  rintro before lap after rfl
  have hlap : lap.report = ((before.foldl Lap.metered (Meter.new interval start)).poll lap.now).1 :=
    h.at
  obtain ⟨hbefore, -⟩ := (throughout_append _ _ _).mp h
  constructor
  · intro hn
    rw [hlap, foldl_of_none hbefore hn]
    exact poll_eq_due (zero_addBytes _) lap.now
  · rintro earlier last since rfl hr hn
    have hlast := hbefore.at
    obtain ⟨-, -, hsince⟩ := (throughout_append _ _ _).mp hbefore
    obtain ⟨hopened, -⟩ := metered_of_report hlast hr
    rw [interval_foldl] at hopened
    rw [hopened] at hsince
    have hcount : addBytes ((counted last.answer).getD 0).toUInt64 (counts since).sum =
        (counts (last :: since)).sum.toUInt64 := by
      rw [counts_cons, List.sum_append, sum_toList, ← zero_addBytes, ← zero_addBytes, addBytes_add]
    rw [hlap, List.foldl_append, List.foldl_cons, hopened, foldl_of_none hsince hn]
    exact poll_eq_due hcount lap.now

/-- What was taken is split at the reports, in order, if it can be counted; `held` is in the window
that is open at first. -/
private theorem split_of_metered (h : Metered m laps) (held : List Nat)
    (hm : m.pending.toNat = held.sum) (hc : (held ++ counts laps).sum < 2 ^ 64) :
    ∃ (chunks : List (List Nat)) (rest : List Nat), chunks.flatten ++ rest = held ++ counts laps ∧
      (laps.filterMap Lap.report).map (·.bytes.toNat) = chunks.map List.sum := by
  induction laps generalizing m held with
  | nil => exact ⟨[], held, by simp [counts], rfl⟩
  | cons lap laps ih =>
    obtain ⟨hlap, hrest⟩ := h
    rw [counts_cons, List.sum_append, List.sum_append, sum_toList] at hc
    cases hr : lap.report with
    | none =>
      rw [metered_of_none hlap hr] at hrest
      have hheld : (addBytes m.pending ((counted lap.answer).getD 0)).toNat =
          (held ++ (counted lap.answer).toList).sum := by
        have hcount : m.pending.toNat + (counted lap.answer).getD 0 < 2 ^ 64 := by omega
        rw [List.sum_append, sum_toList, ← hm]
        exact toNat_addBytes hcount
      have hlater : (held ++ (counted lap.answer).toList ++ counts laps).sum < 2 ^ 64 := by
        rw [List.sum_append, List.sum_append, sum_toList]
        omega
      obtain ⟨chunks, rest, hflat, hsums⟩ := ih hrest _ hheld hlater
      refine ⟨chunks, rest, ?_, ?_⟩
      · rw [hflat, counts_cons, List.append_assoc]
      · rw [List.filterMap_cons_none hr, hsums]
    | some report =>
      have hreports : lap.report ≠ none := by simp [hr]
      obtain ⟨hopened, hbytes⟩ := metered_of_report hlap hreports
      rw [hopened] at hrest
      have hheld : ((counted lap.answer).getD 0).toUInt64.toNat = (counted lap.answer).toList.sum := by
        rw [sum_toList]
        exact UInt64.toNat_ofNat_of_lt' (show _ < 2 ^ 64 by omega)
      have hlater : ((counted lap.answer).toList ++ counts laps).sum < 2 ^ 64 := by
        rw [List.sum_append, sum_toList]
        omega
      obtain ⟨chunks, rest, hflat, hsums⟩ := ih hrest _ hheld hlater
      refine ⟨held :: chunks, rest, ?_, ?_⟩
      · rw [List.flatten_cons, List.append_assoc, hflat, counts_cons]
      · rw [hr] at hbytes
        have hfirst : report.bytes.toNat = held.sum :=
          (congrArg UInt64.toNat (Option.some.inj hbytes)).trans hm
        rw [List.filterMap_cons_some hr, List.map_cons, List.map_cons, hsums, hfirst]

def lapsOf : Progress → List Turn → List Lap
  | _, [] => []
  | p, t :: ts => ⟨t.now, (p.meter.poll t.now).1, some (.ok t.taken)⟩ :: lapsOf (p.after t) ts

private theorem turns_eq_laps (s : Settings) (conn : Nat) (p : Progress) (ts : List Turn) :
    turns s conn p ts = (lapsOf p ts).flatMap (Lap.acts s conn) := by
  induction ts generalizing p with
  | nil => rfl
  | cons t ts ih => simp [turns, lapsOf, Lap.acts, Progress.opening, ih]

private theorem metered_lapsOf (p : Progress) (ts : List Turn) :
    Metered p.meter (lapsOf p ts) ∧
      (lapsOf p ts).foldl Lap.metered p.meter = (ts.foldl Progress.after p).meter := by
  induction ts generalizing p with
  | nil => exact ⟨trivial, rfl⟩
  | cons t ts ih =>
    obtain ⟨hmetered, hlast⟩ := ih (p.after t)
    exact ⟨⟨rfl, hmetered⟩, hlast⟩

/-- What is neither a reading nor a report nor a write. -/
def Still (acts : List (Act (interface Phase))) : Prop :=
  readings acts = [] ∧ reports acts = [] ∧ answers acts = []

private theorem Still.append {front back : List (Act (interface Phase))} (hf : Still front)
    (hb : Still back) : Still (front ++ back) := by
  obtain ⟨hfr, hfs, hfa⟩ := hf
  obtain ⟨hbr, hbs, hba⟩ := hb
  refine ⟨?_, ?_, ?_⟩
  · rw [readings_append, hfr, hbr, List.append_nil]
  · rw [reports_append, hfs, hbs, List.append_nil]
  · rw [answers_append, hfa, hba, List.append_nil]

private theorem lap_of_final {ending : Ending (Except Failure Nat)} (h : Final s conn p acts ending) :
    ∃ (lap : Lap) (back : List (Act (interface Phase))), acts = lap.acts s conn ++ back ∧
      lap.report = (p.meter.poll lap.now).1 ∧ Still back ∧ FailureLogged [lap] (events back) := by
  cases h with
  | stalled now =>
    refine ⟨⟨now, (p.meter.poll now).1, none⟩, [], ?_, rfl, ⟨rfl, rfl, rfl⟩, ?_⟩
    · simp [Lap.acts, Progress.opening]
    · simp [FailureLogged]
  | failed now why =>
    refine ⟨⟨now, (p.meter.poll now).1, some (.error why)⟩,
      [⟨.note (.writeFailed p.total (p.meter.poll now).2.pending why), some ()⟩], ?_, rfl,
      ⟨rfl, rfl, rfl⟩, ?_⟩
    · simp [Lap.acts, Progress.opening]
    · simp [FailureLogged]
  | limited now taken =>
    refine ⟨⟨now, (p.meter.poll now).1, some (.ok taken)⟩,
      [⟨.note (.limitReached (addBytes p.total taken)), some ()⟩], ?_, rfl, ⟨rfl, rfl, rfl⟩, ?_⟩
    · simp [Lap.acts, Progress.opening]
    · simp [FailureLogged]

private theorem FailureLogged.mono {log more : List Event} (h : FailureLogged laps log)
    (hsub : log ⊆ more) : FailureLogged laps more := by
  intro why hw
  obtain ⟨total, unreported, he⟩ := h why hw
  exact ⟨total, unreported, hsub he⟩

private theorem not_failed_lapsOf (p : Progress) (ts : List Turn) (why : Fault) :
    some (.error why) ∉ (lapsOf p ts).map Lap.answer := by
  induction ts generalizing p with
  | nil => exact List.not_mem_nil
  | cons t ts ih => simpa [lapsOf] using ih (p.after t)

private theorem laps_of_streamed {ending : Ending (Except Failure Nat)}
    (h : Streamed s conn depth p acts ending) :
    ∃ laps back, acts = laps.flatMap (Lap.acts s conn) ++ back ∧ Metered p.meter laps ∧ Still back ∧
      FailureLogged laps (events back) := by
  obtain ⟨ts, -, ⟨-, rfl, -⟩ | ⟨last, rfl, hf⟩⟩ := h
  · refine ⟨lapsOf p ts, [], ?_, (metered_lapsOf p ts).1, ⟨rfl, rfl, rfl⟩, ?_⟩
    · rw [turns_eq_laps, List.append_nil]
    · exact fun why hw => absurd hw (not_failed_lapsOf p ts why)
  · obtain ⟨lap, back, rfl, hlap, hback, hlogged⟩ := lap_of_final hf
    obtain ⟨hmetered, hlast⟩ := metered_lapsOf p ts
    refine ⟨lapsOf p ts ++ [lap], back, by simp [turns_eq_laps], ?_, hback, ?_⟩
    · rw [← hlast] at hlap
      exact (throughout_append _ _ _).mpr ⟨hmetered, hlap, trivial⟩
    · intro why hw
      rw [List.map_append, List.mem_append] at hw
      exact hlogged why (hw.resolve_left (not_failed_lapsOf p ts why))

private theorem views_laps (s : Settings) (conn : Nat) (laps : List Lap) :
    readings (laps.flatMap (Lap.acts s conn)) = (laps.map Lap.now).map some ∧
      answers (laps.flatMap (Lap.acts s conn)) = laps.map Lap.answer ∧
      reports (laps.flatMap (Lap.acts s conn)) = laps.filterMap Lap.report := by
  induction laps with
  | nil => exact ⟨rfl, rfl, rfl⟩
  | cons lap laps ih =>
    obtain ⟨hreadings, hanswers, hreports⟩ := ih
    rw [List.flatMap_cons, readings_append, answers_append, reports_append, hreadings, hanswers,
      hreports]
    cases h : lap.report <;> simp [Lap.acts, h]

private theorem lapped_around {start : UInt64} {back : List (Act (interface Phase))}
    (front : List (Act (interface Phase))) (hfr : readings front = []) (hfs : reports front = [])
    (hfa : answers front = [some (.ok greeted)]) (hb : Still back)
    (hlogged : FailureLogged laps (events back)) :
    Lapped s conn greeted start laps (front ++ ⟨.enter .streaming, some ()⟩ :: ⟨.clock, some start⟩ ::
      (laps.flatMap (Lap.acts s conn) ++ back)) := by
  obtain ⟨hbr, hbs, hba⟩ := hb
  obtain ⟨hreadings, hanswers, hreports⟩ := views_laps s conn laps
  refine ⟨⟨front, back, rfl⟩, ?_, ?_, ?_, ?_⟩
  · simp [hfr, hbr, hreadings]
  · simp [hfa, hba, hanswers]
  · simp [hfs, hbs, hreports]
  · exact hlogged.mono fun e he => by simp [he]

/-- Every session that comes to streaming is laps on record. -/
theorem lapped_sessioned {ending : Ending (Except Failure Nat)} (h : Sessioned s depth acts ending)
    (hs : ⟨.enter .streaming, some ()⟩ ∈ acts) :
    ∃ conn greeted start laps, Lapped s conn greeted start laps acts ∧
      Metered (Meter.new s.reportIntervalUs start) laps := by
  cases divided_sessioned h with
  | unstreamed hn => exact absurd hs hn.1
  | @streamed remote conn greeted start _ back _ _ hstream hb =>
    obtain ⟨laps, after, rfl, hmetered, hafter, hlogged⟩ := laps_of_streamed hstream
    have hback : Still back := by cases hb <;> exact ⟨rfl, rfl, rfl⟩
    refine ⟨conn, greeted, start, laps, ?_, hmetered⟩
    have hlapped : Lapped s conn greeted start laps _ := lapped_around
      (dialling remote conn ++ [⟨.note (.greeting s.greeting), some ()⟩,
        ⟨.write conn (greetingBytes s.greeting), some (.ok greeted)⟩]) rfl rfl rfl (hafter.append hback)
      (hlogged.mono fun e he => by simp [he])
    simpa [preamble] using hlapped

private theorem takings_eq_filterMap (acts : List (Act (interface Phase))) :
    takings acts = (answers acts).filterMap counted := by
  rw [takings, answers, List.filterMap_filterMap]
  apply List.filterMap_congr
  rintro ⟨r, answer⟩ -
  cases r with
  | write => rcases answer with _ | _ | _ <;> rfl
  | _ => rfl

private theorem reported_eq (acts : List (Act (interface Phase))) :
    reported acts = ((reports acts).map (·.bytes.toNat)).sum := by
  rw [reported, reports]
  induction events acts with
  | nil => rfl
  | cons e log ih =>
    rw [List.map_cons, List.sum_cons, ih]
    cases e with
    | sendSpeed => rfl
    | _ => exact Nat.zero_add _

private theorem interval_le_report {interval start : UInt64} {report : Report}
    (h : Metered (Meter.new interval start) laps) (hr : report ∈ laps.filterMap Lap.report) :
    interval ≤ report.elapsed := by
  obtain ⟨lap, hlap, hreport⟩ := List.mem_filterMap.mp hr
  obtain ⟨before, after, rfl⟩ := List.append_of_mem hlap
  have hpoll : lap.report = ((before.foldl Lap.metered (Meter.new interval start)).poll lap.now).1 :=
    h.at
  have hle := Meter.interval_le_elapsed (hpoll.symm.trans hreport)
  rwa [interval_foldl] at hle

private theorem sums_writeFailed {ending : Ending (Except Failure Nat)} {total unreported : UInt64}
    {why : Fault} (h : Sessioned s depth acts ending) (hc : (takings acts).tail.sum < 2 ^ 64)
    (he : .writeFailed total unreported why ∈ events acts) :
    total.toNat = (takings acts).tail.sum ∧
      total.toNat = ((reports acts).map (·.bytes.toNat)).sum + unreported.toNat := by
  obtain ⟨hbytes, hcarries⟩ := balanced_sessioned h hc
  obtain ⟨htotal, hunreported⟩ := hcarries _ he
  have ht : total.toNat = (takings acts).tail.sum := htotal _ rfl
  have hu : unreported.toNat = Sender.unreported acts := hunreported _ rfl
  rw [ht, hu, ← reported_eq]
  exact ⟨rfl, hbytes⟩

private theorem Lapped.takings_eq {start : UInt64} (h : Lapped s conn greeted start laps acts) :
    takings acts = greeted :: counts laps := by
  rw [takings_eq_filterMap, h.answers_eq, counts]
  exact congrArg (greeted :: ·) List.filterMap_map

private theorem one_le_of_resolve {line : CommandLine} {file : FileSettings} {elapsed : UInt64}
    (h : resolve line file = .ok s) (he : s.reportIntervalUs ≤ elapsed) : 1 ≤ elapsed := by
  have hinterval : s.reportIntervalUs ≠ 0 := fun h0 =>
    not_offends_of_resolve h .reportInterval (congrArg some h0)
  have hpos : 0 < s.reportIntervalUs.toNat :=
    Nat.pos_of_ne_zero fun h0 => hinterval (UInt64.toNat_inj.mp h0)
  exact UInt64.le_iff_toNat_le.mpr (hpos.trans_le (UInt64.le_iff_toNat_le.mp he))

/-- A session that comes to streaming reads the clock once before its first write of filler, and
once more right before each of them. It reports between reading and writing if an interval has
passed since the last report, or since the start: then it reports what was taken since. So what was
taken is split at the reports if it can be counted, and on a failed write the total is that of all
reports and of the rest. Settings that were resolved never lead to a report on no time at all. -/
theorem reports_account_for_stream {h : Handler (interface Phase) σ} (hp : h.Within Prompt)
    (s : Settings) (depth : Nat) (w : σ) :
    let run := play h (session s depth) w
    ⟨.enter .streaming, some ()⟩ ∈ run.acts →
    ∃ conn greeted start laps, Lapped s conn greeted start laps run.acts ∧
      Timed s.reportIntervalUs start laps ∧
      ((counts laps).sum < 2 ^ 64 →
        ∃ (chunks : List (List Nat)) (rest : List Nat), chunks.flatten ++ rest = counts laps ∧
          (reports run.acts).map (·.bytes.toNat) = chunks.map List.sum ∧
          ∀ total unreported why, .writeFailed total unreported why ∈ events run.acts →
            total.toNat = ((reports run.acts).map (·.bytes.toNat)).sum + unreported.toNat ∧
              unreported.toNat = rest.sum) ∧
      ∀ line file, resolve line file = .ok s → ∀ report ∈ reports run.acts, 1 ≤ report.elapsed ∧
        report.mbps =
          ((Decimal.Binary64.ofNat report.bytes.toNat).scale 8 (1024 * 1024)).div report.seconds := by
  intro run hs
  have hsessioned : Sessioned s depth run.acts run.ending :=
    records_session (records_play hp (session s depth) w)
  obtain ⟨conn, greeted, start, laps, hlapped, hmetered⟩ := lapped_sessioned hsessioned hs
  refine ⟨conn, greeted, start, laps, hlapped, timed_of_metered hmetered, ?_, ?_⟩
  · intro hc
    obtain ⟨chunks, rest, hflat, hsums⟩ := split_of_metered hmetered [] rfl hc
    rw [List.nil_append] at hflat
    rw [← hlapped.reports_eq] at hsums
    refine ⟨chunks, rest, hflat, hsums, ?_⟩
    intro total unreported why he
    have htail : (takings run.acts).tail.sum < 2 ^ 64 := by rwa [hlapped.takings_eq, List.tail_cons]
    obtain ⟨htaken, htotal⟩ := sums_writeFailed hsessioned htail he
    have hsplit : total.toNat = ((reports run.acts).map (·.bytes.toNat)).sum + rest.sum := by
      rw [htaken, hlapped.takings_eq, List.tail_cons, ← hflat, hsums, List.sum_append,
        List.sum_flatten]
    exact ⟨htotal, Nat.add_left_cancel (htotal.symm.trans hsplit)⟩
  · intro line file hresolve report hr
    have hle : s.reportIntervalUs ≤ report.elapsed :=
      interval_le_report hmetered (hlapped.reports_eq ▸ hr)
    have hone := one_le_of_resolve hresolve hle
    refine ⟨hone, if_neg ?_⟩
    intro h0
    rw [h0] at hone
    exact absurd hone (by decide)

/-- The clock wraps before the first report; the fifth write fails. -/
def wrapping : Script.Connections where
  listens := []
  accepts := []
  connects := []
  reads := []
  writes := [.now (.ok .full), .now (.ok (.count 5)), .now (.ok (.count 7)), .now (.ok (.count 0)),
    .now (.ok (.count 2)), .now (.error .timedOut)]
  clock := Clock.ofReadings [0 - 2000, 0 - 1000, 1000, 2000, 7000, 7500]

def briefInterval : Settings := { Settings.default with role := .tcpClient, reportIntervalUs := 3000 }

theorem reports_account_for_stream_wrapping :
    let line := (CommandLine.empty.set .role .tcpClient).set .reportIntervalUs 3000
    let run := play (Script.Connections.handler Phase) (session briefInterval 9) wrapping
    resolve line {} = .ok briefInterval ∧ ⟨.enter .streaming, some ()⟩ ∈ run.acts ∧
      reports run.acts = [⟨5, 3000⟩, ⟨7, 6000⟩] ∧ (∀ report ∈ reports run.acts, 1 ≤ report.elapsed) ∧
      .writeFailed 14 2 .timedOut ∈ events run.acts ∧ 14 = 5 + 7 + 2 := by
  intro line run
  have hresolve : resolve line {} = .ok briefInterval := rfl
  have hsixth : run.acts[6]? = some ⟨.enter .streaming, some ()⟩ := rfl
  have hfourth : (events run.acts)[4]? = some (.writeFailed 14 2 .timedOut) := rfl
  have hreports : reports run.acts = [⟨5, 3000⟩, ⟨7, 6000⟩] := rfl
  have hstreaming := List.mem_of_getElem? hsixth
  have hfailed := List.mem_of_getElem? hfourth
  obtain ⟨_, greeted, _, laps, hlapped, -, hsplit, htime⟩ :=
    reports_account_for_stream prompt_script briefInterval 9 wrapping hstreaming
  have htaken : takings run.acts = [7, 5, 7, 0, 2] := rfl
  obtain ⟨-, hcounts⟩ := List.cons.inj (hlapped.takings_eq.symm.trans htaken)
  obtain ⟨_, _, -, -, hsum⟩ := hsplit (by rw [hcounts]; decide)
  refine ⟨hresolve, hstreaming, hreports, ?_, hfailed, (hsum _ _ _ hfailed).1⟩
  exact fun report hr => (htime line {} hresolve report hr).1

end NetBench.Stream.Sender
