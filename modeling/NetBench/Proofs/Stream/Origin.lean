import Mathlib.Data.List.Forall2
import NetBench.Proofs.Stream.Acts
import NetBench.Proofs.Stream.Turn
import NetBench.Proofs.Talk.Lockstep
import NetBench.Stream.Drain

/-! The origin of the clock. Moved by any amount, around the end of its range too, it changes what
the clock shows and nothing else of a run. -/
namespace NetBench
open Rate Talk

def Rate.Meter.shifted (c : UInt64) (m : Meter) : Meter := { m with start := m.start + c }

private theorem sub_shifted (now start c : UInt64) : now + c - (start + c) = now - start := by grind

/-- A poll of a moved window at a moved time reports the same. -/
theorem Rate.Meter.poll_shifted (c : UInt64) (m : Meter) (now : UInt64) :
    (m.shifted c).poll (now + c) = ((m.poll now).1, (m.poll now).2.shifted c) := by
  simp only [poll, shifted, sub_shifted]
  split <;> rfl

def Script.Connections.shifted (c : UInt64) (w : Script.Connections) : Script.Connections :=
  { w with clock := w.clock.shifted c }

namespace Stream
variable {Phase α : Type} {c : UInt64}

def later (c : UInt64) : Bend (interface Phase)
  | .clock, now => (now + c : UInt64)
  | _, answer => answer

abbrev shifted (c : UInt64) (run : Run (interface Phase) Script.Connections α) :
    Run (interface Phase) Script.Connections α :=
  run.bend (later c) (Script.Connections.shifted c)

theorem later_of_ne {r : Request Phase} (h : r ≠ .clock) : later c r = id := by
  cases r with
  | clock => exact absurd rfl h
  | _ => rfl

private theorem establish_shifted (w : Script.Connections) (reply : Option (Except Fault Unit)) :
    (w.shifted c).establish reply = ((w.establish reply).1, (w.establish reply).2.shifted c) := by
  match reply with
  | none | some (.error _) | some (.ok ()) => rfl

/-- Scripts answer on a moved clock as they did, but for what the clock shows. -/
theorem bends_script (c : UInt64) :
    (Script.Connections.handler Phase).Bends (later c) (Script.Connections.shifted c)
      (Script.Connections.handler Phase) where
  answer r w := by
    cases r with
    | clock => rfl
    | accept timeout =>
      rw [later_of_ne (by nofun), Option.map_id]
      exact establish_shifted { w with
        accepts := (Script.next .never w.accepts).2
        now := w.now + (Script.next .never w.accepts).1.lasting } _
    | connect remote =>
      rw [later_of_ne (by nofun), Option.map_id]
      exact establish_shifted { w with
        connects := (Script.next (.now (.ok ())) w.connects).2
        now := w.now + (Script.next (.now (.ok ())) w.connects).1.lasting } _
    | _ =>
      rw [later_of_ne (by nofun), Option.map_id]
      rfl
  moment _ := rfl

private theorem lockstep_own {β : Type} {f : α → β} {r : Request Phase} (hr : r ≠ .clock)
    {next : r.Answer → Program Phase α} {next' : r.Answer → Program Phase β}
    (h : ∀ a, Lockstep (later c) f (next a) (next' a)) :
    Lockstep (later c) f ((.ask r .done : Program Phase r.Answer) >>= next)
      ((.ask r .done : Program Phase r.Answer) >>= next') := by
  apply Lockstep.ask
  intro a
  rw [later_of_ne hr]
  exact h a

private theorem lockstep_clock {β : Type} {f : α → β} {next : UInt64 → Program Phase α}
    {next' : UInt64 → Program Phase β} (h : ∀ now, Lockstep (later c) f (next now) (next' (now + c))) :
    Lockstep (later c) f (clock >>= next) (clock >>= next') :=
  .ask (I := interface Phase) .clock h

namespace Sender

def Progress.shifted (c : UInt64) (p : Progress) : Progress := { p with meter := p.meter.shifted c }

private theorem lockstep_announce (report? : Option Report) :
    Lockstep (later c) id (announce report?) (announce report?) := by
  cases report? with
  | none => exact .done rfl
  | some report => exact lockstep_own (by nofun) fun _ => .done rfl

private theorem lockstep_push (s : Settings) (data : List UInt8) (conn : Nat) (total : UInt64)
    (meter : Meter) :
    Lockstep (later c) (Sum.map (Progress.shifted c) id) (push s data conn total meter)
      (push s data conn total (meter.shifted c)) := by
  apply lockstep_own (by nofun)
  intro result
  cases result with
  | error why => exact lockstep_own (by nofun) fun _ => .done rfl
  | ok taken =>
    cases s.maxBytes with
    | none => exact .done rfl
    | some limit =>
      by_cases h : limit ≤ addBytes total taken
      · simp only [if_pos h]
        exact lockstep_own (by nofun) fun _ => .done rfl
      · simp only [if_neg h]
        exact .done rfl

private theorem lockstep_step (s : Settings) (data : List UInt8) (conn : Nat) (p : Progress) :
    Lockstep (later c) (Sum.map (Progress.shifted c) id) (step s data conn p)
      (step s data conn (p.shifted c)) := by
  rw [step_eq, step_eq]
  apply lockstep_clock
  intro now
  have hpoll : (p.shifted c).meter.poll (now + c) = _ := p.meter.poll_shifted c now
  rw [hpoll]
  apply Lockstep.bind (lockstep_announce (p.meter.poll now).1)
  intro _
  exact lockstep_push s data conn p.total (p.meter.poll now).2

private theorem lockstep_stream (s : Settings) (conn depth : Nat) :
    Lockstep (later c) id (stream s conn depth) (stream s conn depth) := by
  apply lockstep_clock
  intro start
  exact .loop (g := Progress.shifted c) (lockstep_step s (filler s) conn) depth _

private theorem lockstep_converse (s : Settings) (conn depth : Nat) :
    Lockstep (later c) id (converse s conn depth) (converse s conn depth) := by
  apply lockstep_own (by nofun)
  intro _
  apply lockstep_own (by nofun)
  intro greeted
  cases greeted with
  | error why => exact lockstep_own (by nofun) fun _ => .done rfl
  | ok _ => exact lockstep_own (by nofun) fun _ => lockstep_stream s conn depth

private theorem lockstep_session (s : Settings) (depth : Nat) :
    Lockstep (later c) id (session s depth) (session s depth) := by
  unfold session
  cases parseAddress s.remoteHost with
  | error why => exact lockstep_own (by nofun) fun _ => .done rfl
  | ok ip =>
    apply lockstep_own (by nofun)
    intro _
    apply lockstep_own (by nofun)
    intro made
    cases made with
    | error why =>
      apply lockstep_own (by nofun)
      intro _
      exact lockstep_own (by nofun) fun _ => .done rfl
    | ok conn =>
      apply lockstep_own (by nofun)
      intro _
      apply lockstep_own (by nofun)
      intro _
      apply Lockstep.bind (lockstep_converse s conn depth)
      intro result
      apply lockstep_own (by nofun)
      intro _
      apply lockstep_own (by nofun)
      intro _
      exact lockstep_own (by nofun) fun _ => .done rfl

end Sender

namespace Drain

private theorem lockstep_drain (s : Settings) (conn depth : Nat) :
    Lockstep (later c) id (drain s conn depth) (drain s conn depth) := by
  refine Lockstep.loop (g := id) ?_ depth 0
  intro received
  apply lockstep_own (by nofun)
  intro result
  cases result with
  | error why => exact lockstep_own (by nofun) fun _ => .done rfl
  | ok n => exact .done rfl

private theorem lockstep_serveOne (s : Settings) (depth : Nat) :
    Lockstep (later c) id (serveOne s depth) (serveOne s depth) := by
  apply lockstep_own (by nofun)
  intro _
  apply lockstep_own (by nofun)
  intro made
  cases made with
  | error why => exact lockstep_own (by nofun) fun _ => .done rfl
  | ok conn =>
    apply lockstep_own (by nofun)
    intro _
    apply lockstep_own (by nofun)
    intro _
    apply lockstep_clock
    intro started
    apply Lockstep.bind (lockstep_drain s conn depth)
    rintro ⟨received, why⟩
    apply lockstep_clock
    intro ended
    rw [sub_shifted]
    apply lockstep_own (by nofun)
    intro _
    exact lockstep_own (by nofun) fun _ => .done rfl

private theorem lockstep_run (s : Settings) (depth : Nat) :
    Lockstep (later c) id (run s depth) (run s depth) := by
  unfold run
  cases parseAddress s.listenHost with
  | error why => exact .done rfl
  | ok ip =>
    apply lockstep_own (by nofun)
    intro _
    apply lockstep_own (by nofun)
    intro result
    cases result with
    | error why =>
      apply lockstep_own (by nofun)
      intro _
      exact lockstep_own (by nofun) fun _ => .done rfl
    | ok _ =>
      apply lockstep_own (by nofun)
      intro _
      refine Lockstep.loop (g := id) ?_ depth ()
      intro _
      apply Lockstep.bind (lockstep_serveOne s depth)
      intro _
      exact .done rfl

end Drain

/-- Nothing tells two runs apart but what their clocks show: their requests are the same one by one,
with every event and phase among them, each made at the same time; so are the answers to their
calls, their ends, and the phases they lead to. -/
structure Indistinct {σ : Type} (run other : Run (interface Phase) σ α) : Prop where
  requests : other.trace.map Exchange.request = run.trace.map Exchange.request
  moments : other.trace.map Exchange.moment = run.trace.map Exchange.moment
  calls : calls other.acts = calls run.acts
  events : events other.acts = events run.acts
  ending : other.ending = run.ending
  phase : ∀ start, phaseAfter start other.acts = phaseAfter start run.acts

private theorem calls_later (trace : List (Exchange (interface Phase))) :
    calls ((trace.map (Exchange.bend (later c))).map Exchange.act) = calls (trace.map Exchange.act) := by
  induction trace with
  | nil => rfl
  | cons x trace ih =>
    obtain ⟨r, answer, moment⟩ := x
    cases r with
    | clock => exact ih
    | note => exact ih
    | enter => exact ih
    | _ =>
      simp only [List.map_cons, calls_cons, ih, Exchange.bend, Exchange.act]
      rw [later_of_ne (by nofun), Option.map_id]
      rfl

private theorem events_eq (trace : List (Exchange (interface Phase))) :
    events (trace.map Exchange.act) = (trace.map Exchange.request).filterMap Request.event? := by
  rw [events, List.filterMap_map, List.filterMap_map]
  rfl

private theorem phaseAfter_eq (start : Phase) (trace : List (Exchange (interface Phase))) :
    phaseAfter start (trace.map Exchange.act) =
      (trace.map Exchange.request).foldl (fun p r => r.phaseFrom p) start := by
  rw [phaseAfter, List.foldl_map, List.foldl_map]
  rfl

private theorem indistinct_shifted (run : Run (interface Phase) Script.Connections α) :
    Indistinct run (shifted c run) := by
  have hrequests : (shifted c run).trace.map Exchange.request = run.trace.map Exchange.request :=
    List.map_map
  refine ⟨hrequests, List.map_map, calls_later run.trace, ?_, rfl, ?_⟩
  · rw [Run.acts, Run.acts, events_eq, events_eq, hrequests]
  · intro start
    rw [Run.acts, Run.acts, phaseAfter_eq, phaseAfter_eq, hrequests]

/-- A clock with another origin makes consecutive runs of either role over connections that nothing
tells from the runs on the first clock. It may go around the end of its range anywhere in them. -/
theorem clock_origin_unobservable (s : Settings) (c : UInt64) (depth n : Nat)
    (w : Script.Connections) :
    let sessions := playTimes (Script.Connections.handler _) (Sender.session s depth) n
    let drains := playTimes (Script.Connections.handler _) (Drain.run s depth) n
    List.Forall₂ Indistinct (sessions w) (sessions { w with clock := w.clock.shifted c }) ∧
      List.Forall₂ Indistinct (drains w) (drains { w with clock := w.clock.shifted c }) := by
  intro sessions drains
  have hs : sessions (w.shifted c) = (sessions w).map (shifted c) :=
    (Sender.lockstep_session s depth).playTimes (bends_script c) n w
  have hd : drains (w.shifted c) = (drains w).map (shifted c) :=
    (Drain.lockstep_run s depth).playTimes (bends_script c) n w
  constructor
  · change List.Forall₂ Indistinct (sessions w) (sessions (w.shifted c))
    rw [hs, List.forall₂_map_right_iff]
    exact List.forall₂_same.mpr fun run _ => indistinct_shifted run
  · change List.Forall₂ Indistinct (drains w) (drains (w.shifted c))
    rw [hd, List.forall₂_map_right_iff]
    exact List.forall₂_same.mpr fun run _ => indistinct_shifted run

end Stream
end NetBench
