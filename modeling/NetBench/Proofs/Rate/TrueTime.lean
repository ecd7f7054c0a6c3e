import Mathlib
import NetBench.Proofs.Talk.Throughout
import NetBench.Rate.Meter

/-! A meter against true time. The clock of a meter wraps and true time does not, but as long as
polls follow each other closely enough, a meter reports what one reports that keeps true times. Its
count of bytes would wrap too, in a window that takes too many. -/
namespace NetBench.Rate

/-- A use of a meter: bytes to record, or a poll at a true time. -/
inductive Use where
  | record (bytes : Nat)
  | poll (time : Nat)

/-- A report on file: the true time of its poll, the bytes and the time that it says have passed. -/
structure Entry where
  time : Nat
  bytes : Nat
  elapsed : Nat
  deriving DecidableEq, Repr

/-- A kind of meter: what a use of it puts on file, and the meter after it. -/
abbrev Kind (M : Type) : Type := M → Use → Option Entry × M

namespace Kind
variable {M : Type} (k : Kind M)

def after (m : M) (uses : List Use) : M := uses.foldl (fun m u => (k m u).2) m

def outcomes : M → List Use → List (Option Entry)
  | _, [] => []
  | m, u :: uses => (k m u).1 :: outcomes (k m u).2 uses

def entries (m : M) (uses : List Use) : List Entry := (k.outcomes m uses).reduceOption

end Kind

/-- A meter whose clock shows true time modulo 2 ^ 64. Its reports say how many bytes it counted. -/
def Meter.use : Kind Meter
  | m, .record bytes => (none, m.record bytes)
  | m, .poll time =>
    let (report, next) := m.poll time.toUInt64
    (report.map fun r => ⟨time, r.bytes.toNat, r.elapsed.toNat⟩, next)

/-- An open window on true time: its start and the bytes recorded since. -/
structure IdealMeter where
  interval : Nat
  start : Nat
  pending : Nat

namespace IdealMeter

def new (interval now : Nat) : IdealMeter := ⟨interval, now, 0⟩

def use : Kind IdealMeter
  | m, .record bytes => (none, { m with pending := m.pending + bytes })
  | m, .poll time =>
    if time - m.start < m.interval then (none, m)
    else (some ⟨time, m.pending, time - m.start⟩, ⟨m.interval, time, 0⟩)

end IdealMeter

@[simp] def Use.time? : Use → Option Nat
  | .record _ => none
  | .poll time => some time

@[simp] def Use.bytes : Use → Nat
  | .record bytes => bytes
  | .poll _ => 0

def times (uses : List Use) : List Nat := uses.filterMap Use.time?

def recorded (uses : List Use) : Nat := (uses.map Use.bytes).sum

/-- When the meter was last polled, or made. -/
def lastPolled (created : Nat) (uses : List Use) : Nat := (times uses).getLastD created

/-- When the meter last reported, or was made. -/
def lastFiled (created : Nat) (entries : List Entry) : Nat := (entries.map Entry.time).getLastD created

/-- True time does not run backwards, and from one poll to the next it runs short of a wrap of the
clock by more than an interval. -/
def Paced (interval created : Nat) (uses : List Use) : Prop :=
  (created :: times uses).IsChain fun now later => now ≤ later ∧ later - now < 2 ^ 64 - interval

/-- No window takes so many bytes that a count of them wraps. -/
def Fits (ideal : IdealMeter) (uses : List Use) : Prop :=
  Throughout (fun m u => m.pending + u.bytes < 2 ^ 64) (fun m u => (IdealMeter.use m u).2) ideal uses

/-- Each report is on the time since the one before it, the first on the time since the start. -/
def Tiled (start : Nat) (entries : List Entry) : Prop :=
  Throughout (fun start e => start + e.elapsed = e.time) (fun _ e => e.time) start entries

/-- At a time, a meter is this one on true time: it keeps the same, and its window was opened then
or its interval has not passed. -/
structure Meter.Tracks (interval : UInt64) (now : Nat) (m : Meter) (ideal : IdealMeter) : Prop where
  interval_eq : m.interval = interval
  ideal_eq : ideal.interval = interval.toNat
  start_eq : m.start = ideal.start.toUInt64
  pending_eq : m.pending.toNat = ideal.pending
  start_le : ideal.start ≤ now
  within : now = ideal.start ∨ now < ideal.start + interval.toNat

variable {M : Type} {m : Meter} {ideal : IdealMeter} {interval : UInt64} {width start now time : Nat}
  {uses before rest : List Use} {entries : List Entry}

section
variable (k : Kind M) (m : M) (u : Use) (uses : List Use)

@[simp] theorem Kind.after_nil : k.after m [] = m := rfl

@[simp] theorem Kind.after_cons : k.after m (u :: uses) = k.after (k m u).2 uses := rfl

@[simp] theorem Kind.entries_nil : k.entries m [] = [] := rfl

@[simp] theorem Kind.entries_cons :
    k.entries m (u :: uses) = (k m u).1.toList ++ k.entries (k m u).2 uses := by
  cases h : (k m u).1 <;> simp [Kind.entries, Kind.outcomes, h]

end

section
variable (now time bytes : Nat) (uses : List Use)

@[simp] theorem lastPolled_nil : lastPolled now [] = now := rfl

@[simp] theorem lastPolled_record : lastPolled now (.record bytes :: uses) = lastPolled now uses := rfl

@[simp] theorem lastPolled_poll : lastPolled now (.poll time :: uses) = lastPolled time uses :=
  List.getLastD_cons

@[simp] theorem paced_nil : Paced width now [] := .singleton now

@[simp] theorem paced_record :
    Paced width now (.record bytes :: uses) ↔ Paced width now uses := Iff.rfl

@[simp] theorem paced_poll : Paced width now (.poll time :: uses) ↔
    (now ≤ time ∧ time - now < 2 ^ 64 - width) ∧ Paced width time uses :=
  List.isChain_cons_cons

end

theorem Paced.append (h : Paced width now (before ++ rest)) :
    Paced width now before ∧ Paced width (lastPolled now before) rest := by
  induction before generalizing now with
  | nil => exact ⟨paced_nil .., h⟩
  | cons u before ih =>
    cases u with
    | record bytes => exact ih h
    | poll time =>
      obtain ⟨hstep, hrest⟩ := (paced_poll ..).mp h
      rw [paced_poll, lastPolled_poll]
      exact ⟨⟨hstep, (ih hrest).1⟩, (ih hrest).2⟩

private theorem toNat_sub_toUInt64 (hle : start ≤ time) (hlt : time - start < 2 ^ 64) :
    (time.toUInt64 - start.toUInt64).toNat = time - start := by
  rw [UInt64.toNat_sub]
  simp only [Nat.toUInt64, UInt64.toNat_ofNat']
  omega

private theorem Meter.Tracks.poll (h : m.Tracks interval now ideal) (hle : now ≤ time)
    (hgap : time - now < 2 ^ 64 - interval.toNat) :
    (Meter.use m (.poll time)).1 = (IdealMeter.use ideal (.poll time)).1 ∧
      (Meter.use m (.poll time)).2.Tracks interval time (IdealMeter.use ideal (.poll time)).2 := by
  have hstart := h.start_le
  have hwithin := h.within
  -- The window is shorter than an interval or opened at the last poll, so it has not wrapped since.
  have helapsed : (time.toUInt64 - m.start).toNat = time - ideal.start := by
    rw [h.start_eq]
    exact toNat_sub_toUInt64 (by omega) (by omega)
  rcases m.poll_cases time.toUInt64 with ⟨hp, hlt⟩ | ⟨hp, hge⟩
  · rw [h.interval_eq, UInt64.lt_iff_toNat_lt, helapsed] at hlt
    have hmeter : Meter.use m (.poll time) = (none, m) := by simp only [Meter.use, hp, Option.map_none]
    have hideal : IdealMeter.use ideal (.poll time) = (none, ideal) := if_pos (h.ideal_eq ▸ hlt)
    have hkept : m.Tracks interval time ideal :=
      { h with start_le := hstart.trans hle, within := .inr (by omega) }
    rw [hmeter, hideal]
    exact ⟨rfl, hkept⟩
  · rw [h.interval_eq, UInt64.le_iff_toNat_le, helapsed] at hge
    have hmeter : Meter.use m (.poll time) =
        (some ⟨time, ideal.pending, time - ideal.start⟩, ⟨m.interval, time.toUInt64, 0⟩) := by
      simp only [Meter.use, hp, Option.map_some, helapsed, h.pending_eq]
    have hideal : IdealMeter.use ideal (.poll time) =
        (some ⟨time, ideal.pending, time - ideal.start⟩, ⟨ideal.interval, time, 0⟩) :=
      if_neg (h.ideal_eq ▸ Nat.not_lt.mpr hge)
    rw [hmeter, hideal]
    exact ⟨rfl, h.interval_eq, h.ideal_eq, rfl, rfl, Nat.le_refl time, .inl rfl⟩

private theorem Meter.Tracks.record (h : m.Tracks interval now ideal) {bytes : Nat}
    (hb : ideal.pending + bytes < 2 ^ 64) :
    (Meter.use m (.record bytes)).2.Tracks interval now (IdealMeter.use ideal (.record bytes)).2 := by
  have hcount : (addBytes m.pending bytes).toNat = ideal.pending + bytes := by
    rw [← h.pending_eq] at hb ⊢
    exact toNat_addBytes hb
  exact { h with pending_eq := hcount }

/-- At this pace, every use of a meter puts on file what it does on true time. -/
theorem Meter.Tracks.run (h : m.Tracks interval now ideal) (hp : Paced interval.toNat now uses)
    (hf : Fits ideal uses) :
    Meter.use.outcomes m uses = IdealMeter.use.outcomes ideal uses ∧
      (Meter.use.after m uses).Tracks interval (lastPolled now uses)
        (IdealMeter.use.after ideal uses) := by
  induction uses generalizing m ideal now with
  | nil => exact ⟨rfl, h⟩
  | cons u uses ih =>
    obtain ⟨hbytes, hfits⟩ := hf
    cases u with
    | record bytes =>
      obtain ⟨houtcomes, hafter⟩ := ih (h.record hbytes) hp hfits
      exact ⟨congrArg (none :: ·) houtcomes, hafter⟩
    | poll time =>
      obtain ⟨⟨hle, hgap⟩, hrest⟩ := (paced_poll ..).mp hp
      obtain ⟨hfirst, hthen⟩ := h.poll hle hgap
      obtain ⟨houtcomes, hafter⟩ := ih hthen hrest hfits
      rw [lastPolled_poll]
      exact ⟨congrArg₂ List.cons hfirst houtcomes, hafter⟩

/-- A poll on true time leaves an open window as it is, or files it and opens the next. -/
theorem IdealMeter.poll_cases (ideal : IdealMeter) (time : Nat) :
    (IdealMeter.use ideal (.poll time) = (none, ideal) ∧ time - ideal.start < ideal.interval) ∨
      (IdealMeter.use ideal (.poll time) =
          (some ⟨time, ideal.pending, time - ideal.start⟩, ⟨ideal.interval, time, 0⟩) ∧
        ideal.interval ≤ time - ideal.start) := by
  simp only [IdealMeter.use]
  split
  · exact .inl ⟨rfl, ‹_›⟩
  · exact .inr ⟨rfl, Nat.not_lt.mp ‹_›⟩

theorem IdealMeter.start_after (ideal : IdealMeter) (uses : List Use) :
    (IdealMeter.use.after ideal uses).start =
      lastFiled ideal.start (IdealMeter.use.entries ideal uses) := by
  induction uses generalizing ideal with
  | nil => rfl
  | cons u uses ih =>
    rw [Kind.after_cons, Kind.entries_cons, ih]
    cases u with
    | record bytes => rfl
    | poll time =>
      rcases ideal.poll_cases time with ⟨hp, -⟩ | ⟨hp, -⟩
      · rw [hp]
        rfl
      · rw [hp]
        exact List.getLastD_cons.symm

@[simp] theorem IdealMeter.interval_use (ideal : IdealMeter) (u : Use) :
    (IdealMeter.use ideal u).2.interval = ideal.interval := by
  cases u with
  | record bytes => rfl
  | poll time => rcases ideal.poll_cases time with ⟨hp, -⟩ | ⟨hp, -⟩ <;> rw [hp]

/-- A report is filed only when the interval has passed. -/
theorem IdealMeter.interval_le_elapsed {e : Entry} (he : e ∈ IdealMeter.use.entries ideal uses) :
    ideal.interval ≤ e.elapsed := by
  induction uses generalizing ideal with
  | nil => cases he
  | cons u uses ih =>
    rw [Kind.entries_cons] at he
    rcases List.mem_append.mp he with hfirst | hlater
    · cases u with
      | record bytes => cases hfirst
      | poll time =>
        rcases ideal.poll_cases time with ⟨hp, -⟩ | ⟨hp, hge⟩
        · rw [hp] at hfirst
          cases hfirst
        · rw [hp] at hfirst
          obtain rfl := List.mem_singleton.mp hfirst
          exact hge
    · rw [← ideal.interval_use u]
      exact ih hlater

/-- On true time, reports tile it from the start of the open window. -/
theorem IdealMeter.tiled_entries (ideal : IdealMeter) (hs : ideal.start ≤ now)
    (hp : Paced width now uses) : Tiled ideal.start (IdealMeter.use.entries ideal uses) := by
  induction uses generalizing ideal now with
  | nil => trivial
  | cons u uses ih =>
    rw [Kind.entries_cons]
    cases u with
    | record bytes => exact ih (IdealMeter.use ideal (.record bytes)).2 hs hp
    | poll time =>
      obtain ⟨⟨hle, -⟩, hrest⟩ := (paced_poll ..).mp hp
      rcases ideal.poll_cases time with ⟨hpoll, -⟩ | ⟨hpoll, -⟩
      · rw [hpoll]
        exact ih _ (hs.trans hle) hrest
      · rw [hpoll]
        exact ⟨Nat.add_sub_cancel' (hs.trans hle),
          ih ⟨ideal.interval, time, 0⟩ (Nat.le_refl time) hrest⟩

theorem Tiled.add_sum (h : Tiled start entries) :
    start + (entries.map Entry.elapsed).sum = lastFiled start entries := by
  induction entries generalizing start with
  | nil => rfl
  | cons e entries ih =>
    obtain ⟨hfirst, hrest⟩ := h
    rw [List.map_cons, List.sum_cons, ← Nat.add_assoc, hfirst, ih hrest]
    exact List.getLastD_cons.symm

theorem IdealMeter.bytes_use (ideal : IdealMeter) (u : Use) :
    ((IdealMeter.use ideal u).1.toList.map Entry.bytes).sum + (IdealMeter.use ideal u).2.pending =
      ideal.pending + u.bytes := by
  cases u with
  | record bytes => exact Nat.zero_add _
  | poll time => rcases ideal.poll_cases time with ⟨hp, -⟩ | ⟨hp, -⟩ <;> simp [hp]

/-- No byte is lost: all that was recorded is in a report or in the open window. -/
theorem IdealMeter.bytes_after (ideal : IdealMeter) (uses : List Use) :
    ((IdealMeter.use.entries ideal uses).map Entry.bytes).sum + (IdealMeter.use.after ideal uses).pending =
      ideal.pending + recorded uses := by
  induction uses generalizing ideal with
  | nil => exact Nat.zero_add _
  | cons u uses ih =>
    rw [Kind.after_cons, Kind.entries_cons, List.map_append, List.sum_append, Nat.add_assoc, ih,
      ← Nat.add_assoc, ideal.bytes_use, recorded, recorded, List.map_cons, List.sum_cons, Nat.add_assoc]

private theorem Meter.Tracks.bytes_after (h : m.Tracks interval now ideal)
    (hp : Paced interval.toNat now uses) (hf : Fits ideal uses) :
    ((Meter.use.entries m uses).map Entry.bytes).sum + (Meter.use.after m uses).pending.toNat =
      ideal.pending + recorded uses := by
  obtain ⟨houtcomes, hafter⟩ := h.run hp hf
  rw [Kind.entries, houtcomes, hafter.pending_eq]
  exact ideal.bytes_after uses

/-- If all windows together take too few bytes for a count to wrap, so does each. -/
theorem fits_of_recorded (h : ideal.pending + recorded uses < 2 ^ 64) : Fits ideal uses := by
  induction uses generalizing ideal with
  | nil => trivial
  | cons u uses ih =>
    have hsum : recorded (u :: uses) = u.bytes + recorded uses := List.sum_cons
    have hkept := ideal.bytes_use u
    have hlater : (IdealMeter.use ideal u).2.pending + recorded uses < 2 ^ 64 := by omega
    exact ⟨by omega, ih hlater⟩

theorem Meter.tracks_new (interval : UInt64) (created : Nat) :
    (Meter.new interval created.toUInt64).Tracks interval created
      (IdealMeter.new interval.toNat created) :=
  ⟨rfl, rfl, rfl, rfl, Nat.le_refl created, .inl rfl⟩

/-- Wherever the uses are cut at a poll: it files a report just if the interval has passed since the
last one, and that cannot be by more than the time since the last poll. -/
private theorem Meter.Tracks.poll_of_paced (h : m.Tracks interval now ideal)
    (hp : Paced interval.toNat now (before ++ .poll time :: rest))
    (hf : Fits ideal (before ++ .poll time :: rest)) :
    let since := lastFiled ideal.start (Meter.use.entries m before)
    let outcome := (Meter.use (Meter.use.after m before) (.poll time)).1
    (outcome ≠ none ↔ since + interval.toNat ≤ time) ∧
      ∀ e, outcome = some e → 0 < interval →
        e.elapsed < interval.toNat + (time - lastPolled now before) := by
  intro since outcome
  obtain ⟨hbefore, hthen⟩ := hp.append
  obtain ⟨⟨hle, hgap⟩, -⟩ := (paced_poll ..).mp hthen
  obtain ⟨houtcomes, hafter⟩ := h.run hbefore ((throughout_append _ _ _).mp hf).1
  have hentries : Meter.use.entries m before = IdealMeter.use.entries ideal before :=
    congrArg List.reduceOption houtcomes
  have hsince : (IdealMeter.use.after ideal before).start = since := by
    rw [IdealMeter.start_after, ← hentries]
  have houtcome : outcome = (IdealMeter.use (IdealMeter.use.after ideal before) (.poll time)).1 :=
    (hafter.poll hle hgap).1
  have hstart := hafter.start_le
  have hwithin := hafter.within
  rw [hsince] at hstart hwithin
  rcases (IdealMeter.use.after ideal before).poll_cases time with ⟨hpoll, hlt⟩ | ⟨hpoll, hge⟩
  · rw [hafter.ideal_eq, hsince] at hlt
    rw [houtcome, hpoll]
    exact ⟨iff_of_false (· rfl) (by omega), nofun⟩
  · rw [hafter.ideal_eq, hsince] at hge
    rw [houtcome, hpoll, hsince]
    refine ⟨iff_of_true nofun (by omega), ?_⟩
    rintro e he hpos
    cases he
    have hpos' : 0 < interval.toNat := UInt64.lt_iff_toNat_lt.mp hpos
    show time - since < interval.toNat + (time - lastPolled now before)
    omega

/-- As long as polls follow each other closely enough, a meter files what it would on true time,
whatever is recorded in between that does not make its count wrap. So its reports tile the time
since it was made, each of at least an interval; a report is made at the first poll at which the
interval has passed, and so is late by less than the time since the poll before; and at any time,
all that was recorded is in a report or in the open window. -/
theorem Meter.reports_on_true_time {interval : UInt64} {created : Nat} {uses : List Use}
    (h : Paced interval.toNat created uses)
    (hf : Fits (IdealMeter.new interval.toNat created) uses) :
    let meter := Meter.new interval created.toUInt64
    let filed := Meter.use.entries meter
    Meter.use.outcomes meter uses =
        IdealMeter.use.outcomes (IdealMeter.new interval.toNat created) uses ∧
      Tiled created (filed uses) ∧
      created + ((filed uses).map Entry.elapsed).sum = lastFiled created (filed uses) ∧
      (∀ e ∈ filed uses, interval.toNat ≤ e.elapsed) ∧
      created + (filed uses).length * interval.toNat ≤ lastFiled created (filed uses) ∧
      (∀ before time rest, uses = before ++ .poll time :: rest →
        let outcome := (Meter.use (Meter.use.after meter before) (.poll time)).1
        (outcome ≠ none ↔ lastFiled created (filed before) + interval.toNat ≤ time) ∧
          ∀ e, outcome = some e → 0 < interval →
            e.elapsed < interval.toNat + (time - lastPolled created before)) ∧
      ∀ sofar, sofar <+: uses → ((filed sofar).map Entry.bytes).sum +
        (Meter.use.after meter sofar).pending.toNat = recorded sofar := by
  intro meter filed
  have htracks := Meter.tracks_new interval created
  obtain ⟨houtcomes, -⟩ := htracks.run h hf
  have hfiled : filed uses = IdealMeter.use.entries (IdealMeter.new interval.toNat created) uses :=
    congrArg List.reduceOption houtcomes
  have htiled : Tiled created (filed uses) :=
    hfiled ▸ IdealMeter.tiled_entries _ htracks.start_le h
  have hinterval : ∀ e ∈ filed uses, interval.toNat ≤ e.elapsed := by
    intro e he
    rw [hfiled] at he
    exact IdealMeter.interval_le_elapsed he
  have hspan : (filed uses).length * interval.toNat ≤ ((filed uses).map Entry.elapsed).sum := by
    have hsum := List.card_nsmul_le_sum ((filed uses).map Entry.elapsed) interval.toNat
      (List.forall_mem_map.mpr hinterval)
    rwa [List.length_map, smul_eq_mul] at hsum
  refine ⟨houtcomes, htiled, htiled.add_sum, hinterval, ?_, ?_, ?_⟩
  · rw [← htiled.add_sum]
    exact Nat.add_le_add_left hspan created
  · rintro before time rest rfl
    exact htracks.poll_of_paced h hf
  · rintro sofar ⟨rest, rfl⟩
    exact (htracks.bytes_after h.append.1 ((throughout_append _ _ _).mp hf).1).trans (Nat.zero_add _)

/-- The clock wraps in the first window; the second is as long as one may be at this pace. -/
def wideUses : List Use :=
  [.record 5, .poll (2 ^ 64 - 1000), .record 7, .poll (2 ^ 64 + 1000), .record 1, .poll (2 ^ 64 + 3000),
    .poll (2 ^ 65 - 1), .record 2]

theorem Meter.reports_on_true_time_wideUses :
    let meter := Meter.new 3000 (2 ^ 64 - 2000 : Nat).toUInt64
    let filed : List Entry := [⟨2 ^ 64 + 1000, 12, 3000⟩, ⟨2 ^ 65 - 1, 1, 2 ^ 64 - 1001⟩]
    Paced (3000 : UInt64).toNat (2 ^ 64 - 2000) wideUses ∧
      Meter.use.entries meter wideUses = filed ∧
      Meter.use.outcomes meter wideUses =
        IdealMeter.use.outcomes (IdealMeter.new 3000 (2 ^ 64 - 2000)) wideUses ∧
      Tiled (2 ^ 64 - 2000) filed ∧ 12 + 1 + (Meter.use.after meter wideUses).pending.toNat = 15 := by
  intro meter filed
  have hpaced : Paced (3000 : UInt64).toNat (2 ^ 64 - 2000) wideUses := by
    simp [wideUses]
  have hfits : Fits (IdealMeter.new 3000 (2 ^ 64 - 2000)) wideUses := fits_of_recorded (by decide)
  have hfiled : Meter.use.entries meter wideUses = filed := by decide +kernel
  obtain ⟨houtcomes, htiled, -, -, -, -, hbytes⟩ :=
    Meter.reports_on_true_time hpaced hfits
  have hsum := hbytes wideUses (List.prefix_refl wideUses)
  rw [hfiled] at htiled hsum
  exact ⟨hpaced, hfiled, houtcomes, htiled, hsum⟩

end NetBench.Rate
