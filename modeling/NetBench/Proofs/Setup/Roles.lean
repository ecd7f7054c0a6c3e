import NetBench.Datagram.Prober
import NetBench.Datagram.Reflector
import NetBench.Proofs.Datagram.Acts
import NetBench.Proofs.Setup.Basic
import NetBench.Proofs.Stream.Traffic
import NetBench.Proofs.Stream.Turn
import NetBench.Proofs.Talk.Results
import NetBench.Script.Datagrams
import NetBench.Settings.File

/-! The setups of the four roles. Each fails without a trace in its surroundings, but for the cue of
its one call; only the phases that a role passes on the way differ. -/
namespace NetBench
open Script Talk

namespace Stream

section
variable {Phase α : Type}

theorem establish_error {w : Connections} {reply : Option (Except Fault Unit)} {why : Fault}
    (h : (w.establish reply).1 = some (.error why)) : reply = some (.error why) := by
  match reply with
  | none | some (.ok ()) => cases h
  | some (.error other) =>
    obtain rfl : other = why := Except.error.inj (Option.some.inj h)
    rfl

theorem calls_of_alike {t : Program Phase α} (ht : Alike Request.shows (· = ·) t t)
    {w w' : Connections} (hw : w.SameScripts w') :
    let run := play (Connections.handler Phase) t
    calls (run w').acts = calls (run w).acts ∧ (run w').ending = (run w).ending := by
  obtain ⟨clock, readings, now, rfl⟩ := hw
  obtain ⟨hsights, hending, -⟩ := ht.play
    (matches_script (fun _ _ => True) Exchange.act (fun _ _ => trivial) fun _ => rfl)
    ⟨clock, readings, now, trivial, rfl⟩
  refine ⟨?_, hending⟩
  have hcalls (trace : List (Exchange (interface Phase))) :
      calls (trace.map Exchange.act) = calls (sights Request.shows Exchange.act trace) := by
    simp only [calls, sights, List.filter_map, List.filter_filter]
    congr 1
    apply List.filter_congr
    rintro ⟨r, answer, moment⟩ _
    cases r <;> rfl
  rw [Run.acts, Run.acts, hcalls, hcalls, hsights]

end

namespace Sender

def setup (s : Settings) (depth : Nat) :
    Setup (interface Phase) Connections (Except Failure Nat) where
  handler := Connections.handler Phase
  program := session s depth
  host := s.remoteHost
  isCall := Request.isCall
  cues := Connections.connects
  later left ms w := { w with connects := left, now := w.now + ms }
  SameScripts := Connections.SameScripts
  refusal ip why := ⟨.connect ⟨ip, s.remotePort⟩, some (.error why)⟩
  unread := [⟨.enter .terminated, some ()⟩]
  refused ip why :=
    [⟨.enter .connecting, some ()⟩, ⟨.connect ⟨ip, s.remotePort⟩, some (.error why)⟩,
      ⟨.note (.connectFailed ⟨ip, s.remotePort⟩ why), some ()⟩, ⟨.enter .terminated, some ()⟩]
  address why := .error (.address why)
  denied why := .error (.connect why)

variable {s : Settings} {depth : Nat}

/-- A result of a session that got a connection. -/
def Established (result : Except Failure Nat) : Prop :=
  ∀ why, result ≠ .error (.address why) ∧ result ≠ .error (.connect why)

private theorem yields_push (s : Settings) (data : List UInt8) (conn : Nat) (total : UInt64)
    (meter : Rate.Meter) :
    Yields (Sum.elim (fun _ => True) Established) (push s data conn total meter) := by
  apply Yields.ask
  intro result
  cases result with
  | error why => exact fun _ _ => ⟨nofun, nofun⟩
  | ok taken =>
    cases s.maxBytes with
    | none => trivial
    | some limit =>
      by_cases h : limit ≤ Rate.addBytes total taken
      · simp only [if_pos h]
        exact fun _ _ => ⟨nofun, nofun⟩
      · simp only [if_neg h]
        trivial

private theorem yields_step (s : Settings) (data : List UInt8) (conn : Nat) (p : Progress) :
    Yields (Sum.elim (fun _ => True) Established) (step s data conn p) := by
  rw [step_eq]
  intro now
  have hannounce : Yields (fun _ => True) (announce (p.meter.poll now).1) := by
    cases (p.meter.poll now).1 with
    | none => trivial
    | some report => exact fun _ => trivial
  apply Yields.bind hannounce
  intro _ _
  exact yields_push s data conn p.total (p.meter.poll now).2

private theorem yields_converse (s : Settings) (conn depth : Nat) :
    Yields Established (converse s conn depth) := by
  intro _ greeted
  cases greeted with
  | error why => exact fun _ _ => ⟨nofun, nofun⟩
  | ok _ =>
    intro _ start
    exact Yields.loop (yields_step s (filler s) conn) depth _

theorem setup_fails (s : Settings) (depth : Nat) : (setup s depth).Fails := by
  apply Setup.Fails.of
  · intro why (hp : parseAddress s.remoteHost = .error why) w
    simp only [Setup.run, setup, session, hp]
    exact ⟨rfl, rfl, rfl⟩
  · intro w ip delay why left (hp : parseAddress s.remoteHost = .ok ip) hcues
    obtain ⟨listens, accepts, connects, reads, writes, clock, readings, now, opened⟩ := w
    obtain rfl : connects = ⟨delay, some (.error why)⟩ :: left := hcues
    simp only [Setup.run, setup, session, hp]
    exact ⟨rfl, rfl, rfl⟩
  · rintro w ip (hp : parseAddress s.remoteHost = .ok ip) ⟨why, hf⟩
    simp only [Setup.run, setup, session, hp] at hf
    have hends : ∃ result, ¬Established result ∧
        (play (Connections.handler Phase) (sessionTo s ⟨ip, s.remotePort⟩ depth) w).ending =
          .returned result := by
      rcases hf with hf | hf
      · exact ⟨_, fun he => (he why).1 rfl, hf⟩
      · exact ⟨_, fun he => (he why).2 rfl, hf⟩
    obtain ⟨result, hresult, hends⟩ := hends
    obtain ⟨_, _, hends⟩ := ending_ask hends
    obtain ⟨made, hmade, hends⟩ := ending_ask hends
    cases made with
    | error why => exact ⟨why, establish_error hmade⟩
    | ok conn =>
      refine absurd (Yields.play (P := Established) ?_ _ hends) hresult
      intro _ _
      exact Yields.bind (t := converse s conn depth) (yields_converse s conn depth)
        fun _ hr _ _ _ => hr

theorem setup_atomic (s : Settings) (depth : Nat) : (setup s depth).Atomic :=
  (setup_fails s depth).atomic fun hw => calls_of_alike (alike_session (.refl s) depth) hw

theorem phase_of_failed {s : Settings} {depth : Nat} {w : Connections}
    (hf : (setup s depth).Failed ((setup s depth).run w)) (start : Phase) :
    phaseAfter start ((setup s depth).run w).acts = .terminated := by
  rcases (setup_fails s depth).only hf with hu | ⟨ip, why, hr⟩
  · rw [((setup_fails s depth).unreadable hu w).1]
    rfl
  · rw [((setup_fails s depth).refused hr).1]
    rfl

end Sender

namespace Drain

def setup (s : Settings) (depth : Nat) : Setup (interface Phase) Connections Failure where
  handler := Connections.handler Phase
  program := run s depth
  host := s.listenHost
  isCall := Request.isCall
  cues := Connections.listens
  later left ms w := { w with listens := left, now := w.now + ms }
  SameScripts := Connections.SameScripts
  refusal ip why := ⟨.listen ⟨ip, s.listenPort⟩ s.queueDepth, some (.error why)⟩
  unread := []
  refused ip why :=
    [⟨.enter .listening, some ()⟩,
      ⟨.listen ⟨ip, s.listenPort⟩ s.queueDepth, some (.error why)⟩,
      ⟨.note (.queueFailed ⟨ip, s.listenPort⟩ why), some ()⟩, ⟨.enter .idle, some ()⟩]
  address := .address
  denied := .listen

theorem setup_fails (s : Settings) (depth : Nat) : (setup s depth).Fails := by
  apply Setup.Fails.of
  · intro why (hp : parseAddress s.listenHost = .error why) w
    simp only [Setup.run, setup, run, hp]
    exact ⟨rfl, rfl, rfl⟩
  · intro w ip delay why left (hp : parseAddress s.listenHost = .ok ip) hcues
    obtain ⟨listens, accepts, connects, reads, writes, clock, readings, now, opened⟩ := w
    obtain rfl : listens = ⟨delay, some (.error why)⟩ :: left := hcues
    simp only [Setup.run, setup, run, hp]
    exact ⟨rfl, rfl, rfl⟩
  · rintro w ip (hp : parseAddress s.listenHost = .ok ip) ⟨why, hf⟩
    simp only [Setup.run, setup, run, hp] at hf
    have hends : ∃ failure, (play (Connections.handler Phase)
        (runAt s ⟨ip, s.listenPort⟩ depth) w).ending = .returned failure :=
      hf.elim (⟨_, ·⟩) (⟨_, ·⟩)
    obtain ⟨failure, hends⟩ := hends
    obtain ⟨_, _, hends⟩ := ending_ask hends
    obtain ⟨made, hmade, hends⟩ := ending_ask hends
    cases made with
    | error why => exact ⟨why, hmade⟩
    | ok _ =>
      -- Serving has no end of its own.
      refine (Yields.play (P := fun _ => False) ?_ _ hends).elim
      intro _
      refine Yields.loop (fun _ => ?_) depth ()
      exact Yields.bind (yields_true _) fun _ _ => trivial

theorem setup_atomic (s : Settings) (depth : Nat) : (setup s depth).Atomic :=
  (setup_fails s depth).atomic fun hw => calls_of_alike (alike_run (.refl s) depth) hw

theorem phase_of_returned {s : Settings} {depth : Nat} {w : Connections} {failure : Failure}
    (he : ((setup s depth).run w).ending = .returned failure) (start : Phase) :
    phaseAfter start ((setup s depth).run w).acts =
      match failure with
      | .address _ => start
      | .listen _ => .idle := by
  have hf : (setup s depth).Failed ((setup s depth).run w) := by
    cases failure with
    | address why => exact ⟨why, .inl he⟩
    | listen why => exact ⟨why, .inr he⟩
  rcases (setup_fails s depth).only hf with hu | ⟨ip, why, hr⟩
  · obtain ⟨hacts, hending, _⟩ := (setup_fails s depth).unreadable hu w
    obtain rfl := Ending.returned.inj (he.symm.trans hending)
    rw [hacts]
    rfl
  · obtain ⟨hacts, hending, _⟩ := (setup_fails s depth).refused hr
    obtain rfl := Ending.returned.inj (he.symm.trans hending)
    rw [hacts]
    rfl

end Drain
end Stream

namespace Datagram

/-- The same scripts are left; the time may differ. -/
def SameScripts (w w' : Datagrams) : Prop := ∃ now, w' = { w with now }

theorem matches_script :
    Datagrams.handler.Matches (fun _ => true) Exchange.act SameScripts Datagrams.handler where
  answer {r w w'} _ hw := by
    obtain ⟨now, rfl⟩ := hw
    cases r <;> exact ⟨rfl, _, rfl⟩
  view _ _ := rfl
  left hr := by cases hr
  right hr := by cases hr

theorem calls_of_sameScripts {α : Type} (t : Program α) {w w' : Datagrams} (hw : SameScripts w w') :
    calls (play Datagrams.handler t w').acts = calls (play Datagrams.handler t w).acts ∧
      (play Datagrams.handler t w').ending = (play Datagrams.handler t w).ending := by
  obtain ⟨hsights, hending, -⟩ := (Alike.refl (fun _ => rfl) t).play matches_script hw
  refine ⟨?_, hending⟩
  have hacts (trace : List (Exchange interface)) :
      trace.map Exchange.act = sights (fun _ => true) Exchange.act trace := by
    rw [sights, List.filter_eq_self.mpr fun _ _ => rfl]
  rw [Run.acts, Run.acts, hacts, hacts, hsights]

namespace Reflector

def setup (s : Settings) (depth : Nat) : Setup interface Datagrams Failure where
  handler := Datagrams.handler
  program := run s depth
  host := s.listenHost
  isCall := Request.isCall
  cues := Datagrams.binds
  later left ms w := { w with binds := left, now := w.now + ms }
  SameScripts := SameScripts
  refusal ip why := ⟨.bind ⟨ip, s.listenPort⟩, some (.error why)⟩
  unread := []
  refused ip why :=
    [⟨.bind ⟨ip, s.listenPort⟩, some (.error why)⟩,
      ⟨.note (.bindFailed ⟨ip, s.listenPort⟩ why), some ()⟩]
  address := .address
  denied := .bind

theorem setup_fails (s : Settings) (depth : Nat) : (setup s depth).Fails := by
  apply Setup.Fails.of
  · intro why (hp : parseAddress s.listenHost = .error why) w
    simp only [Setup.run, setup, run, hp]
    exact ⟨rfl, rfl, rfl⟩
  · intro w ip delay why left (hp : parseAddress s.listenHost = .ok ip) hcues
    obtain ⟨binds, sends, receives, now⟩ := w
    obtain rfl : binds = ⟨delay, some (.error why)⟩ :: left := hcues
    simp only [Setup.run, setup, run, hp]
    exact ⟨rfl, rfl, rfl⟩
  · rintro w ip (hp : parseAddress s.listenHost = .ok ip) ⟨why, hf⟩
    simp only [Setup.run, setup, run, hp] at hf
    have hends : ∃ failure, (play Datagrams.handler
        (runAt s ⟨ip, s.listenPort⟩ depth) w).ending = .returned failure :=
      hf.elim (⟨_, ·⟩) (⟨_, ·⟩)
    obtain ⟨failure, hends⟩ := hends
    obtain ⟨made, hmade, hends⟩ := ending_ask hends
    cases made with
    | error why => exact ⟨why, hmade⟩
    | ok _ =>
      -- Serving has no end of its own.
      refine (Yields.play (P := fun _ => False) ?_ _ hends).elim
      intro _
      refine Yields.loop (fun buffer => ?_) depth _
      exact Yields.bind (yields_true _) fun _ _ => trivial

theorem setup_atomic (s : Settings) (depth : Nat) : (setup s depth).Atomic :=
  (setup_fails s depth).atomic fun hw => calls_of_sameScripts (run s depth) hw

end Reflector

namespace Prober

/-- The setup of a prober: it binds, to any address of the family of its remote. -/
def setup (s : Settings) (depth : Nat) : Setup interface Datagrams (Except Failure Nat) where
  handler := Datagrams.handler
  program := run s depth
  host := s.remoteHost
  isCall := Request.isCall
  cues := Datagrams.binds
  later left ms w := { w with binds := left, now := w.now + ms }
  SameScripts := SameScripts
  refusal ip why := ⟨.bind ⟨ip.unspecifiedLike, 0⟩, some (.error why)⟩
  unread := []
  refused ip why :=
    [⟨.bind ⟨ip.unspecifiedLike, 0⟩, some (.error why)⟩,
      ⟨.note (.bindFailed ⟨ip.unspecifiedLike, 0⟩ why), some ()⟩]
  address why := .error (.address why)
  denied why := .error (.bind why)

/-- A result of a run that got its socket. -/
def Bound (result : Except Failure Nat) : Prop :=
  ∀ why, result ≠ .error (.address why) ∧ result ≠ .error (.bind why)

private theorem yields_step (s : Settings) (remote : Endpoint) (p : Progress) :
    Yields (Sum.elim (fun _ => True) Bound) (step s remote p) := by
  unfold step
  cases complete s p.round with
  | true => exact fun _ _ => ⟨nofun, nofun⟩
  | false =>
    apply Yields.ask
    intro result
    cases result with
    | error why => exact fun _ _ _ => ⟨nofun, nofun⟩
    | ok _ => exact Yields.bind (yields_true _) fun _ _ _ => trivial

theorem setup_fails (s : Settings) (depth : Nat) : (setup s depth).Fails := by
  apply Setup.Fails.of
  · intro why (hp : parseAddress s.remoteHost = .error why) w
    simp only [Setup.run, setup, run, hp]
    exact ⟨rfl, rfl, rfl⟩
  · intro w ip delay why left (hp : parseAddress s.remoteHost = .ok ip) hcues
    obtain ⟨binds, sends, receives, now⟩ := w
    obtain rfl : binds = ⟨delay, some (.error why)⟩ :: left := hcues
    simp only [Setup.run, setup, run, hp]
    exact ⟨rfl, rfl, rfl⟩
  · rintro w ip (hp : parseAddress s.remoteHost = .ok ip) ⟨why, hf⟩
    simp only [Setup.run, setup, run, hp] at hf
    have hends : ∃ result, ¬Bound result ∧
        (play Datagrams.handler (runTo s ip depth) w).ending = .returned result := by
      rcases hf with hf | hf
      · exact ⟨_, fun he => (he why).1 rfl, hf⟩
      · exact ⟨_, fun he => (he why).2 rfl, hf⟩
    obtain ⟨result, hresult, hends⟩ := hends
    obtain ⟨made, hmade, hends⟩ := ending_ask hends
    cases made with
    | error why => exact ⟨why, hmade⟩
    | ok _ =>
      refine absurd (Yields.play (P := Bound) ?_ _ hends) hresult
      exact Yields.loop (yields_step s ⟨ip, s.remotePort⟩) depth _

theorem setup_atomic (s : Settings) (depth : Nat) : (setup s depth).Atomic :=
  (setup_fails s depth).atomic fun hw => calls_of_sameScripts (run s depth) hw

end Prober
end Datagram
open NetBench.Stream NetBench.Datagram

/-- In all four roles a setup that fails leaves nothing behind but the cue of its call. A sender is
terminated then. A drain is idle if it could not listen, and as it was before if its host is no
address. -/
theorem setup_failures_atomic (s : Settings) (depth : Nat) :
    (Sender.setup s depth).Atomic ∧ (Drain.setup s depth).Atomic ∧
      (Reflector.setup s depth).Atomic ∧ (Prober.setup s depth).Atomic ∧
      (∀ w start, (Sender.setup s depth).Failed ((Sender.setup s depth).run w) →
        phaseAfter start ((Sender.setup s depth).run w).acts = .terminated) ∧
      (∀ w start why, ((Drain.setup s depth).run w).ending = .returned (.listen why) →
        phaseAfter start ((Drain.setup s depth).run w).acts = .idle) ∧
      ∀ w start why, ((Drain.setup s depth).run w).ending = .returned (.address why) →
        phaseAfter start ((Drain.setup s depth).run w).acts = start :=
  ⟨Sender.setup_atomic s depth, Drain.setup_atomic s depth, Reflector.setup_atomic s depth,
    Prober.setup_atomic s depth, fun _ start hf => Sender.phase_of_failed hf start,
    fun _ start _ he => Drain.phase_of_returned he start,
    fun _ start _ he => Drain.phase_of_returned he start⟩

/-- It refuses two connections, the second after some time, and then takes the greeting and one byte
of filler. -/
def refusingTwice : Connections where
  listens := []
  accepts := []
  connects := [.now (.error .timedOut), ⟨5, some (.error .closed)⟩, .now (.ok ())]
  reads := []
  writes := [.now (.ok .full), .now (.ok (.count 1))]
  clock := Clock.running

theorem setup_failures_atomic_refusingTwice :
    let p := Sender.setup Settings.default 3
    let runs := playTimes p.handler p.program 3 refusingTwice
    (∀ r ∈ runs.take 2, p.Failed r) ∧ runs.drop 2 = [p.run (p.past 2 refusingTwice)] ∧
      p.calls (p.run { p.past 2 refusingTwice with clock := fun _ _ => 0, now := 0 }) =
        p.calls (p.run (p.past 2 refusingTwice)) := by
  intro p runs
  have hfailed : ∀ r ∈ runs.take 2, p.Failed r :=
    List.forall_mem_cons.mpr ⟨⟨.timedOut, .inr rfl⟩, List.forall_mem_singleton.mpr ⟨.closed, .inr rfl⟩⟩
  have hplay : playTimes p.handler p.program ((runs.take 2).length + 1) refusingTwice =
      runs.take 2 ++ [p.run (p.run (p.run refusingTwice).world).world] := rfl
  obtain ⟨hrun, hcalls⟩ := (setup_failures_atomic Settings.default 3).1.renewed hplay hfailed
  exact ⟨hfailed, congrArg (fun run => [run]) hrun, hrun ▸ (hcalls _ ⟨_, _, _, rfl⟩).1⟩

end NetBench
