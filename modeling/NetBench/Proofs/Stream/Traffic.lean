import NetBench.Proofs.Stream.Acts
import NetBench.Proofs.Stream.Turn
import NetBench.Proofs.Talk.Traffic
import NetBench.Stream.Drain

/-! The traffic of roles over connections: their calls, with the phases between them. Neither the
clock nor the log nor the settings of other roles have a part in it. -/
namespace NetBench
open Talk

/-- The same scripts are left, and as many connections were made; clock and time may differ. -/
def Script.Connections.SameScripts (w w' : Script.Connections) : Prop :=
  ∃ clock readings now, w' = { w with clock, readings, now }

/-- The same but for the clock, and for the time as far as `T` lets it differ. -/
def Script.Connections.SameBut (T : Nat → Nat → Prop) (w w' : Script.Connections) : Prop :=
  ∃ clock readings now, T w.now now ∧ w' = { w with clock, readings, now }

namespace Stream
variable {Phase α β ι : Type}

/-- Whether a request shows: all do but the role's clock and its log. -/
def Request.shows : Request Phase → Bool
  | .clock | .note _ => false
  | _ => true

private theorem establish_sameBut {T : Nat → Nat → Prop} (w : Script.Connections) (clock : Clock)
    (readings : Nat) {now : Nat} (ht : T w.now now) (reply : Option (Except Fault Unit)) :
    let w' := { w with clock, readings, now }
    (w'.establish reply).1 = (w.establish reply).1 ∧
      (w.establish reply).2.SameBut T (w'.establish reply).2 := by
  match reply with
  | none | some (.error _) | some (.ok ()) => exact ⟨rfl, clock, readings, now, ht, rfl⟩

/-- The same scripts answer alike, whatever the clock shows. What they take moves all times alike. -/
theorem matches_script (T : Nat → Nat → Prop) (view : Exchange (interface Phase) → ι)
    (hT : ∀ {now now'} ms, T now now' → T (now + ms) (now' + ms))
    (hv : ∀ {r answer now now'}, T now now' → view ⟨r, answer, now'⟩ = view ⟨r, answer, now⟩) :
    (Script.Connections.handler Phase).Matches Request.shows view
      (Script.Connections.SameBut T) (Script.Connections.handler Phase) where
  answer {r w w'} hr hw := by
    obtain ⟨clock, readings, now, ht, rfl⟩ := hw
    cases r with
    | clock | note => cases hr
    | accept timeout =>
      exact establish_sameBut { w with
        accepts := (Script.next .never w.accepts).2
        now := w.now + (Script.next .never w.accepts).1.lasting } clock readings (hT _ ht) _
    | connect remote =>
      exact establish_sameBut { w with
        connects := (Script.next (.now (.ok ())) w.connects).2
        now := w.now + (Script.next (.now (.ok ())) w.connects).1.lasting } clock readings (hT _ ht) _
    | disconnect | enter => exact ⟨rfl, _, _, _, ht, rfl⟩
    | _ => exact ⟨rfl, _, _, _, hT _ ht, rfl⟩
  view _ hw := by
    obtain ⟨clock, readings, now, ht, rfl⟩ := hw
    exact hv ht
  left {r w w'} hr hw := by
    obtain ⟨clock, readings, now, ht, rfl⟩ := hw
    cases r with
    | clock | note => exact ⟨_, rfl, _, _, _, ht, rfl⟩
    | _ => cases hr
  right {r w w'} hr hw := by
    obtain ⟨clock, readings, now, ht, rfl⟩ := hw
    cases r with
    | clock | note => exact ⟨_, rfl, _, _, _, ht, rfl⟩
    | _ => cases hr

private theorem alike_clock {S : α → β → Prop} {next : UInt64 → Program Phase α}
    {next' : UInt64 → Program Phase β} (h : ∀ now now', Alike Request.shows S (next now) (next' now')) :
    Alike Request.shows S (clock >>= next) (clock >>= next') :=
  .left rfl fun now => .right rfl fun now' => h now now'

private theorem alike_note {S : α → β → Prop} {e e' : Event} {next : Unit → Program Phase α}
    {next' : Unit → Program Phase β} (h : Alike Request.shows S (next ()) (next' ())) :
    Alike Request.shows S (note e >>= next) (note e' >>= next') :=
  .left rfl fun _ => .right rfl fun _ => h

private theorem alike_ask {S : α → β → Prop} {r : Request Phase} (hr : r.shows = true)
    {next : r.Answer → Program Phase α} {next' : r.Answer → Program Phase β}
    (h : ∀ a, Alike Request.shows S (next a) (next' a)) :
    Alike Request.shows S ((.ask r .done : Program Phase r.Answer) >>= next)
      ((.ask r .done : Program Phase r.Answer) >>= next') :=
  .ask hr h

namespace Sender

/-- The settings that a sender goes by are the same. -/
structure Agree (s s' : Settings) : Prop where
  remoteHost : s'.remoteHost = s.remoteHost
  remotePort : s'.remotePort = s.remotePort
  greeting : s'.greeting = s.greeting
  writeBufferSize : s'.writeBufferSize = s.writeBufferSize
  fillerByte : s'.fillerByte = s.fillerByte
  maxBytes : s'.maxBytes = s.maxBytes

theorem Agree.refl (s : Settings) : Agree s s := ⟨rfl, rfl, rfl, rfl, rfl, rfl⟩

variable {s s' : Settings}

private theorem alike_announce (report? report?' : Option Rate.Report) :
    Alike Request.shows (· = ·) (announce report?) (announce report?') := by
  cases report? with
  | none =>
    cases report?' with
    | none => exact .done rfl
    | some report' => exact .right rfl fun _ => .done rfl
  | some report =>
    cases report?' with
    | none => exact .left rfl fun _ => .done rfl
    | some report' => exact alike_note (.done rfl)

private theorem alike_push (hm : s'.maxBytes = s.maxBytes) (data : List UInt8) (conn : Nat) (total : UInt64)
    (meter meter' : Rate.Meter) :
    Alike Request.shows (Sum.LiftRel (fun p p' => p'.total = p.total) (· = ·))
      (push s data conn total meter) (push s' data conn total meter') := by
  apply alike_ask rfl
  intro result
  cases result with
  | error why => exact alike_note (.done (.inr rfl))
  | ok taken =>
    simp only [hm]
    cases s.maxBytes with
    | none => exact .done (.inl rfl)
    | some limit =>
      by_cases h : limit ≤ Rate.addBytes total taken
      · simp only [if_pos h]
        exact alike_note (.done (.inr rfl))
      · simp only [if_neg h]
        exact .done (.inl rfl)

private theorem alike_step (ha : Agree s s') (conn : Nat) (p p' : Progress) (hp : p'.total = p.total) :
    Alike Request.shows (Sum.LiftRel (fun q q' => q'.total = q.total) (· = ·))
      (step s (filler s) conn p) (step s' (filler s') conn p') := by
  have hfiller : filler s' = filler s := by rw [filler, filler, ha.writeBufferSize, ha.fillerByte]
  rw [step_eq, step_eq, hfiller, hp]
  apply alike_clock
  intro now now'
  apply Alike.bind (alike_announce (p.meter.poll now).1 (p'.meter.poll now').1)
  intro _ _ _
  exact alike_push ha.maxBytes (filler s) conn p.total _ _

private theorem alike_converse (ha : Agree s s') (conn depth : Nat) :
    Alike Request.shows (· = ·) (converse s conn depth) (converse s' conn depth) := by
  have hgreeting : greetingBytes s'.greeting = greetingBytes s.greeting := by rw [ha.greeting]
  unfold converse
  rw [hgreeting]
  apply alike_note
  apply alike_ask rfl
  intro greeted
  cases greeted with
  | error why => exact alike_note (.done rfl)
  | ok _ =>
    apply alike_ask rfl
    intro _
    apply alike_clock
    intro start start'
    exact Alike.loop (alike_step ha conn) depth rfl

/-- Sessions that go by the same settings are alike. -/
theorem alike_session (ha : Agree s s') (depth : Nat) :
    Alike Request.shows (· = ·) (session s depth) (session s' depth) := by
  unfold session
  rw [ha.remoteHost, ha.remotePort]
  cases parseAddress s.remoteHost with
  | error why => exact alike_ask rfl fun _ => .done rfl
  | ok ip =>
    apply alike_ask rfl
    intro _
    apply alike_ask rfl
    intro made
    cases made with
    | error why =>
      apply alike_note
      exact alike_ask rfl fun _ => .done rfl
    | ok conn =>
      apply alike_ask rfl
      intro _
      apply alike_note
      apply Alike.bind (alike_converse ha conn depth)
      rintro result _ rfl
      apply alike_ask rfl
      intro _
      apply alike_ask rfl
      intro _
      exact alike_note (.done rfl)

end Sender

namespace Drain

/-- The settings that a drain goes by are the same. -/
structure Agree (s s' : Settings) : Prop where
  listenHost : s'.listenHost = s.listenHost
  listenPort : s'.listenPort = s.listenPort
  queueDepth : s'.queueDepth = s.queueDepth
  readBufferSize : s'.readBufferSize = s.readBufferSize

theorem Agree.refl (s : Settings) : Agree s s := ⟨rfl, rfl, rfl, rfl⟩

variable {s s' : Settings}

private theorem alike_drain (ha : Agree s s') (conn depth : Nat) :
    Alike Request.shows (· = ·) (drain s conn depth) (drain s' conn depth) := by
  refine Alike.loop (T := (· = ·)) ?_ depth rfl
  rintro received _ rfl
  unfold step
  rw [ha.readBufferSize]
  apply alike_ask rfl
  intro result
  cases result with
  | error why => exact alike_note (.done (.inr rfl))
  | ok n => exact .done (.inl rfl)

private theorem alike_serveOne (ha : Agree s s') (depth : Nat) :
    Alike Request.shows (· = ·) (serveOne s depth) (serveOne s' depth) := by
  apply alike_ask rfl
  intro _
  apply alike_ask rfl
  intro made
  cases made with
  | error why => exact alike_note (.done rfl)
  | ok conn =>
    apply alike_ask rfl
    intro _
    apply alike_note
    apply alike_clock
    intro started started'
    apply Alike.bind (alike_drain ha conn depth)
    rintro result _ rfl
    apply alike_clock
    intro ended ended'
    apply alike_ask rfl
    intro _
    exact alike_note (.done rfl)

/-- Drains that go by the same settings are alike. -/
theorem alike_run (ha : Agree s s') (depth : Nat) :
    Alike Request.shows (· = ·) (run s depth) (run s' depth) := by
  unfold run
  rw [ha.listenHost, ha.listenPort]
  cases parseAddress s.listenHost with
  | error why => exact .done rfl
  | ok ip =>
    unfold runAt
    rw [ha.queueDepth]
    apply alike_ask rfl
    intro _
    apply alike_ask rfl
    intro result
    cases result with
    | error why =>
      apply alike_note
      exact alike_ask rfl fun _ => .done rfl
    | ok _ =>
      apply alike_note
      refine Alike.loop (T := fun _ _ => True) ?_ depth trivial
      intro _ _ _
      apply Alike.bind (alike_serveOne ha depth)
      intro _ _ _
      exact .done (.inl trivial)

end Drain
end Stream
end NetBench
