import Mathlib
import NetBench.Proofs.Stream.Sending

/-! What a session adds up to. Every byte of filler that the transport took is in a report or in the
window that is still open, and the total that is logged in the end is their sum, as long as the
counts of the session have room for it. -/
namespace NetBench

theorem Event.lookup_total (e : Event) : e.fields.lookup "total" =
    match e with
    | .limitReached total | .writeFailed total _ _ => some (.number total.toNat)
    | _ => none := by
  cases e with
  | drained report why => cases why <;> rfl
  | clientFailed why phase => cases phase <;> rfl
  | _ => rfl

theorem Event.lookup_unreported (e : Event) : e.fields.lookup "unreported" =
    match e with
    | .writeFailed _ unreported _ => some (.number unreported.toNat)
    | _ => none := by
  cases e with
  | drained report why => cases why <;> rfl
  | clientFailed why phase => cases phase <;> rfl
  | _ => rfl

namespace Stream.Sender
open Talk Rate

@[simp] def taking : Act (interface Phase) → Option Nat
  | ⟨.write _ _, some (.ok taken)⟩ => some taken
  | _ => none

/-- What the writes of a record moved that succeeded, the greeting first. -/
def takings (acts : List (Act (interface Phase))) : List Nat := acts.filterMap taking

@[simp] def reporting : Event → Nat
  | .sendSpeed report => report.bytes.toNat
  | _ => 0

def reported (acts : List (Act (interface Phase))) : Nat := ((events acts).map reporting).sum

/-- The bytes of an open window after one more act. The window opens when the stream begins, and
anew with every report. -/
@[simp] def windowAfter (window : Nat) : Act (interface Phase) → Nat
  | ⟨.enter .streaming, _⟩ => 0
  | ⟨.note (.sendSpeed _), _⟩ => 0
  | ⟨.write _ _, some (.ok taken)⟩ => window + taken
  | _ => window

/-- The bytes of the last window of a record, which is never reported. -/
def unreported (acts : List (Act (interface Phase))) : Nat := acts.foldl windowAfter 0

/-- An event that carries no other sums than these. -/
def Carries (total window : Nat) (e : Event) : Prop :=
  (∀ n, e.fields.lookup "total" = some (.number n) → n = total) ∧
    ∀ n, e.fields.lookup "unreported" = some (.number n) → n = window

def Plain (e : Event) : Prop :=
  e.fields.lookup "total" = none ∧ e.fields.lookup "unreported" = none

/-- An act that moves no filler, reports none and logs no sum. -/
def Neutral (x : Act (interface Phase)) : Prop :=
  taking x = none ∧ (x.1.event?.map reporting).getD 0 = 0 ∧ (∀ window, windowAfter window x = window) ∧
    ∀ e ∈ x.1.event?, Plain e

/-- The counts of a stream have room for so many bytes more. The window is part of the total. -/
structure Progress.HasRoom (p : Progress) (more : Nat) : Prop where
  pending_le : p.meter.pending.toNat ≤ p.total.toNat
  total_lt : p.total.toNat + more < 2 ^ 64

/-- The books of a record that went on from `p`: what was in the window and what its writes took was
reported or is in the window that is left, and no other sums are logged. -/
structure Kept (p : Progress) (acts : List (Act (interface Phase))) : Prop where
  bytes_eq : reported acts + acts.foldl windowAfter p.meter.pending.toNat =
    p.meter.pending.toNat + (takings acts).sum
  carries : ∀ e ∈ events acts,
    Carries (p.total.toNat + (takings acts).sum) (acts.foldl windowAfter p.meter.pending.toNat) e

/-- The books of a session balance: what its writes took after the greeting was reported or is in
the window that is left, and no other sums are logged. -/
def Balanced (acts : List (Act (interface Phase))) : Prop :=
  (takings acts).tail.sum = reported acts + unreported acts ∧
    ∀ e ∈ events acts, Carries (takings acts).tail.sum (unreported acts) e

variable {s : Settings} {conn depth : Nat} {p : Progress} {acts : List (Act (interface Phase))}

section
variable (x : Act (interface Phase)) (front back : List (Act (interface Phase)))

@[simp] theorem takings_nil : takings [] = [] := rfl

@[simp] theorem takings_cons : takings (x :: back) = (taking x).toList ++ takings back := by
  rw [takings, List.filterMap_cons]
  cases taking x <;> rfl

@[simp] theorem takings_append : takings (front ++ back) = takings front ++ takings back :=
  List.filterMap_append

@[simp] theorem reported_nil : reported [] = 0 := rfl

@[simp] theorem reported_cons :
    reported (x :: back) = (x.1.event?.map reporting).getD 0 + reported back := by
  rw [reported, events_cons, List.map_append, List.sum_append]
  cases x.1.event? <;> simp [reported]

@[simp] theorem reported_append : reported (front ++ back) = reported front + reported back := by
  rw [reported, events_append, List.map_append, List.sum_append, ← reported, ← reported]

end

private theorem takings_opening (p : Progress) (now : UInt64) : takings (p.opening now) = [] := by
  cases h : (p.meter.poll now).1 <;> simp [Progress.opening, h]

private theorem reported_opening (p : Progress) (now : UInt64) :
    reported (p.opening now) + (p.meter.poll now).2.pending.toNat = p.meter.pending.toNat := by
  have hp := p.meter.pending_poll now
  cases h : (p.meter.poll now).1 with
  | none => simpa [Progress.opening, h] using hp
  | some report => simpa [Progress.opening, h] using hp

private theorem window_opening (p : Progress) (now : UInt64) :
    (p.opening now).foldl windowAfter p.meter.pending.toNat = (p.meter.poll now).2.pending.toNat := by
  unfold Progress.opening Meter.poll
  split <;> rfl

private theorem plain_opening (p : Progress) (now : UInt64) : ∀ e ∈ events (p.opening now), Plain e := by
  intro e he
  cases h : (p.meter.poll now).1 with
  | none => simp [Progress.opening, h] at he
  | some report =>
    obtain rfl : e = .sendSpeed report := by simpa [Progress.opening, h] using he
    exact ⟨Event.lookup_total _, Event.lookup_unreported _⟩

private theorem Plain.carries {e : Event} (h : Plain e) (total window : Nat) :
    Carries total window e := by
  constructor
  · intro n hn
    rw [h.1] at hn
    cases hn
  · intro n hn
    rw [h.2] at hn
    cases hn

private theorem pending_poll_le (m : Meter) (now : UInt64) :
    (m.poll now).2.pending.toNat ≤ m.pending.toNat :=
  (Nat.le_add_left _ _).trans_eq (m.pending_poll now)

private theorem Progress.HasRoom.counts {taken : Nat} (h : p.HasRoom taken) (now : UInt64) :
    (addBytes p.total taken).toNat = p.total.toNat + taken ∧
      (addBytes (p.meter.poll now).2.pending taken).toNat =
        (p.meter.poll now).2.pending.toNat + taken := by
  have hpending : (p.meter.poll now).2.pending.toNat ≤ p.total.toNat :=
    (pending_poll_le p.meter now).trans h.pending_le
  exact ⟨toNat_addBytes h.total_lt,
    toNat_addBytes ((Nat.add_le_add_right hpending taken).trans_lt h.total_lt)⟩

private theorem Progress.HasRoom.after {t : Turn} {more : Nat} (h : p.HasRoom (t.taken + more)) :
    (p.after t).HasRoom more := by
  have hpoll := pending_poll_le p.meter t.now
  have hpending := h.pending_le
  have htotal := h.total_lt
  have hroom : p.HasRoom t.taken := ⟨hpending, by omega⟩
  obtain ⟨ht, hp⟩ := hroom.counts t.now
  constructor
  · show (addBytes _ t.taken).toNat ≤ (addBytes _ t.taken).toNat
    omega
  · show (addBytes _ t.taken).toNat + more < 2 ^ 64
    omega

private theorem kept_turn (t : Turn) (hroom : p.HasRoom t.taken) (h : Kept (p.after t) acts) :
    Kept p (p.opening t.now ++ ⟨.write conn (filler s), some (.ok t.taken)⟩ :: acts) := by
  have hr := reported_opening p t.now
  have hb := h.bytes_eq
  obtain ⟨ht, hp⟩ := hroom.counts t.now
  change (p.after t).total.toNat = _ at ht
  change (p.after t).meter.pending.toNat = _ at hp
  have hw : (p.opening t.now ++ ⟨.write conn (filler s), some (.ok t.taken)⟩ :: acts).foldl
      windowAfter p.meter.pending.toNat = acts.foldl windowAfter (p.after t).meter.pending.toNat := by
    rw [List.foldl_append, window_opening, hp]
    rfl
  have hs : (takings (p.opening t.now ++ ⟨.write conn (filler s), some (.ok t.taken)⟩ :: acts)).sum =
      t.taken + (takings acts).sum := by
    simp [takings_opening]
  constructor
  · rw [hw, hs, reported_append, reported_cons]
    simp only [Request.event?, Option.map_none, Option.getD_none]
    omega
  · intro e he
    rw [events_append, List.mem_append] at he
    rw [hw, hs, ← Nat.add_assoc, ← ht]
    rcases he with ho | ha
    · exact (plain_opening p t.now e ho).carries _ _
    · exact h.carries e ha

private theorem kept_final {ending : Ending (Except Failure Nat)} (h : Final s conn p acts ending)
    (hroom : p.HasRoom (takings acts).sum) : Kept p acts := by
  cases h with
  | stalled now =>
    have hr := reported_opening p now
    refine ⟨by simpa [takings_opening, window_opening] using hr, ?_⟩
    intro e he
    exact (plain_opening p now e (by simpa using he)).carries _ _
  | failed now why =>
    have hr := reported_opening p now
    refine ⟨by simpa [takings_opening, window_opening] using hr, ?_⟩
    intro e he
    rw [events_append, List.mem_append] at he
    rcases he with ho | hf
    · exact (plain_opening p now e ho).carries _ _
    · obtain rfl : e = .writeFailed p.total (p.meter.poll now).2.pending why := by simpa using hf
      simp [Carries, Event.lookup_total, Event.lookup_unreported, takings_opening, window_opening]
  | limited now taken =>
    have hr := reported_opening p now
    have htaken : p.HasRoom taken := by simpa [takings_opening] using hroom
    refine ⟨?_, ?_⟩
    · simp [takings_opening, window_opening]
      omega
    · intro e he
      rw [events_append, List.mem_append] at he
      rcases he with ho | hl
      · exact (plain_opening p now e ho).carries _ _
      · obtain rfl : e = .limitReached (addBytes p.total taken) := by simpa using hl
        simp [Carries, Event.lookup_total, Event.lookup_unreported, takings_opening,
          (htaken.counts now).1]

private theorem takings_turns (s : Settings) (conn : Nat) (p : Progress) (ts : List Turn) :
    takings (turns s conn p ts) = ts.map Turn.taken := by
  induction ts generalizing p with
  | nil => rfl
  | cons t ts ih => simp [turns, takings_opening, ih]

private theorem kept_turns (ts : List Turn) (hroom : p.HasRoom (takings (turns s conn p ts ++ acts)).sum)
    (h : (ts.foldl Progress.after p).HasRoom (takings acts).sum → Kept (ts.foldl Progress.after p) acts) :
    Kept p (turns s conn p ts ++ acts) := by
  rw [takings_append, takings_turns, List.sum_append] at hroom
  induction ts generalizing p with
  | nil => exact h (by simpa using hroom)
  | cons t ts ih =>
    rw [List.map_cons, List.sum_cons, Nat.add_assoc] at hroom
    have htaken : p.HasRoom t.taken :=
      ⟨hroom.pending_le, Nat.lt_of_le_of_lt (by omega) hroom.total_lt⟩
    rw [turns, List.append_assoc, List.cons_append]
    exact kept_turn t htaken (ih hroom.after h)

private theorem kept_streamed {ending : Ending (Except Failure Nat)}
    (h : Streamed s conn depth p acts ending) (hroom : p.HasRoom (takings acts).sum) : Kept p acts := by
  rcases h with ⟨ts, -, ⟨-, rfl, -⟩ | ⟨last, rfl, hf⟩⟩
  · have hnil : Kept (ts.foldl Progress.after p) [] := ⟨Nat.zero_add _, fun _ he => nomatch he⟩
    rw [← List.append_nil (turns s conn p ts)] at hroom ⊢
    exact kept_turns ts hroom fun _ => hnil
  · exact kept_turns ts hroom (kept_final hf)

private theorem balanced_conversed {ending : Ending (Except Failure Nat)}
    (h : Conversed s conn depth acts ending) (hsum : (takings acts).tail.sum < 2 ^ 64) :
    Balanced acts := by
  cases h with
  | stalled =>
    refine ⟨rfl, ?_⟩
    intro e he
    obtain rfl : e = .greeting s.greeting := by simpa using he
    exact Plain.carries ⟨rfl, rfl⟩ _ _
  | refused why =>
    refine ⟨rfl, ?_⟩
    intro e he
    obtain rfl | rfl : e = .greeting s.greeting ∨ e = .greetingFailed why := by simpa using he
    · exact Plain.carries ⟨rfl, rfl⟩ _ _
    · exact Plain.carries ⟨rfl, rfl⟩ _ _
  | @streamed acts ending greeted start h =>
    have htakings : (takings acts).sum < 2 ^ 64 := by simpa using hsum
    obtain ⟨hb, hc⟩ := kept_streamed h ⟨Nat.le_refl 0, (Nat.zero_add _).trans_lt htakings⟩
    have hstart : (Meter.new s.reportIntervalUs start).pending.toNat = 0 := rfl
    simp only [hstart, UInt64.toNat_zero, Nat.zero_add] at hb hc
    constructor
    · rw [← unreported] at hb
      simpa [unreported] using hb.symm
    · intro e he
      obtain rfl | ha : e = .greeting s.greeting ∨ e ∈ events acts := by simpa using he
      · exact Plain.carries ⟨rfl, rfl⟩ _ _
      · simpa [unreported] using hc e ha

private theorem neutral_acts (h : ∀ x ∈ acts, Neutral x) :
    takings acts = [] ∧ reported acts = 0 ∧ (∀ window, acts.foldl windowAfter window = window) ∧
      ∀ e ∈ events acts, Plain e := by
  induction acts with
  | nil => exact ⟨rfl, rfl, fun _ => rfl, fun _ he => nomatch he⟩
  | cons x acts ih =>
    obtain ⟨ht, hr, hw, he⟩ := h x (.head acts)
    obtain ⟨hts, hrs, hws, hes⟩ := ih fun y hy => h y (.tail x hy)
    refine ⟨by rw [takings_cons, ht, hts]; rfl, by rw [reported_cons, hr, hrs], ?_, ?_⟩
    · intro window
      rw [List.foldl_cons, hw, hws]
    · intro e hmem
      rw [events_cons, List.mem_append] at hmem
      rcases hmem with hx | hl
      · exact he e (Option.mem_toList.mp hx)
      · exact hes e hl

private theorem takings_around {front back : List (Act (interface Phase))}
    (hf : ∀ x ∈ front, Neutral x) (middle : List (Act (interface Phase)))
    (hb : ∀ x ∈ back, Neutral x) : takings (front ++ middle ++ back) = takings middle := by
  simp [(neutral_acts hf).1, (neutral_acts hb).1]

private theorem Balanced.around {front middle back : List (Act (interface Phase))}
    (hf : ∀ x ∈ front, Neutral x) (hm : Balanced middle) (hb : ∀ x ∈ back, Neutral x) :
    Balanced (front ++ middle ++ back) := by
  obtain ⟨hft, hfr, hfw, hfe⟩ := neutral_acts hf
  obtain ⟨hbt, hbr, hbw, hbe⟩ := neutral_acts hb
  have htakings := takings_around hf middle hb
  have hwindow : unreported (front ++ middle ++ back) = unreported middle := by
    rw [unreported, List.foldl_append, List.foldl_append, hfw, hbw, unreported]
  constructor
  · rw [htakings, hwindow, hm.1]
    simp [hfr, hbr]
  · intro e he
    rw [htakings, hwindow]
    simp only [events_append, List.mem_append] at he
    rcases he with (hef | hem) | heb
    · exact (hfe e hef).carries _ _
    · exact hm.2 e hem
    · exact (hbe e heb).carries _ _

private theorem neutral_nil : ∀ x ∈ ([] : List (Act (interface Phase))), Neutral x :=
  fun _ hx => nomatch hx

private theorem neutral_dialling (remote : Endpoint) (conn : Nat) :
    ∀ x ∈ dialling remote conn, Neutral x := by
  simp [dialling, Neutral, Plain, Event.lookup_total, Event.lookup_unreported]

private theorem neutral_hangingUp (conn : Nat) : ∀ x ∈ hangingUp conn, Neutral x := by
  simp [hangingUp, Neutral, Plain, Event.lookup_total, Event.lookup_unreported]

private theorem balanced_conversed_around {front middle back : List (Act (interface Phase))}
    {ending : Ending (Except Failure Nat)} (hf : ∀ x ∈ front, Neutral x)
    (h : Conversed s conn depth middle ending) (hb : ∀ x ∈ back, Neutral x)
    (hsum : (takings (front ++ middle ++ back)).tail.sum < 2 ^ 64) :
    Balanced (front ++ middle ++ back) := by
  rw [takings_around hf middle hb] at hsum
  exact .around hf (balanced_conversed h hsum) hb

private theorem balanced_of_neutral (h : ∀ x ∈ acts, Neutral x) : Balanced acts := by
  have hnil : Balanced [] := ⟨rfl, fun _ he => nomatch he⟩
  simpa using hnil.around h neutral_nil

/-- The books of every session balance, however it ends, if they have room for what it takes. -/
theorem balanced_sessioned {ending : Ending (Except Failure Nat)}
    (h : Sessioned s depth acts ending) (hsum : (takings acts).tail.sum < 2 ^ 64) : Balanced acts := by
  cases h with
  | unreadable => exact balanced_of_neutral (by simp [Neutral])
  | unanswered => exact balanced_of_neutral (by simp [Neutral])
  | refused =>
    apply balanced_of_neutral
    simp [Neutral, Plain, Event.lookup_total, Event.lookup_unreported]
  | parted _ conn hm =>
    exact balanced_conversed_around (neutral_dialling _ conn) hm (neutral_hangingUp conn) hsum
  | parting _ conn hm =>
    refine balanced_conversed_around (neutral_dialling _ conn) hm ?_ hsum
    simp [Neutral]
  | conversing _ conn hm he =>
    rw [← List.append_nil (dialling .. ++ _)] at hsum ⊢
    exact balanced_conversed_around (neutral_dialling _ conn) hm neutral_nil hsum

end Stream.Sender
end NetBench
