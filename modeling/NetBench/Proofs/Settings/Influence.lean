import NetBench.Datagram.Prober
import NetBench.Datagram.Reflector
import NetBench.Proofs.Stream.Traffic
import NetBench.Script.Datagrams
import NetBench.Settings.File

/-! What the settings of a role have influence on. Its traffic goes by the settings of its own and
by its scripts; its clock, and whatever else is set, show in the log only. -/
namespace NetBench
open Talk

namespace Stream
variable {Phase α σ : Type}

/-- Two runs with the same traffic. What they request of anything but clock and log is the same one
by one, and so are the answers, the times, the end and the phase they lead to. -/
structure SameTraffic (run other : Run (interface Phase) σ α) : Prop where
  shown : (other.trace.filter fun x => x.request.shows) = run.trace.filter fun x => x.request.shows
  ending : other.ending = run.ending
  phase : ∀ start, phaseAfter start other.acts = phaseAfter start run.acts

private theorem phaseAfter_shown (start : Phase) (trace : List (Exchange (interface Phase))) :
    phaseAfter start ((trace.filter fun x => x.request.shows).map Exchange.act) =
      phaseAfter start (trace.map Exchange.act) := by
  induction trace generalizing start with
  | nil => rfl
  | cons x trace ih =>
    obtain ⟨r, answer, moment⟩ := x
    cases r with
    | clock | note => exact ih start
    | _ => exact ih _

/-- Consecutive runs of programs that show alike have the same traffic, whatever clock they go by. -/
theorem sameTraffic_of_alike {t u : Program Phase α} (ha : Alike Request.shows (· = ·) t u) (n : Nat)
    (w : Script.Connections) (clock : Clock) (readings : Nat) :
    List.Forall₂ SameTraffic (playTimes (Script.Connections.handler Phase) t n w)
      (playTimes (Script.Connections.handler Phase) u n { w with clock, readings }) := by
  have hm := matches_script (· = ·) (id : Exchange (interface Phase) → Exchange (interface Phase))
    (fun ms h => congrArg (· + ms) h) fun {r answer _ _} h => congrArg (Exchange.mk r answer) h.symm
  refine (ha.playTimes hm n ⟨clock, readings, w.now, rfl, rfl⟩).imp ?_
  rintro run other ⟨hsights, hending⟩
  have hshown : (other.trace.filter fun x => x.request.shows) =
      run.trace.filter fun x => x.request.shows := by simpa only [sights, List.map_id] using hsights
  refine ⟨hshown, hending, ?_⟩
  intro start
  rw [Run.acts, ← phaseAfter_shown start other.trace, hshown, phaseAfter_shown, Run.acts]

end Stream

namespace Datagram

namespace Reflector

/-- The settings that a reflector goes by are the same. -/
structure Agree (s s' : Settings) : Prop where
  listenHost : s'.listenHost = s.listenHost
  listenPort : s'.listenPort = s.listenPort
  udpBufferSize : s'.udpBufferSize = s.udpBufferSize

/-- Reflectors that go by the same settings are the same program. -/
theorem run_of_agree {s s' : Settings} (ha : Agree s s') (depth : Nat) : run s' depth = run s depth := by
  have hserve (buffer : Buffer) : serveOne s' buffer = serveOne s buffer := by
    rw [serveOne, serveOne, ha.udpBufferSize]
  have hrunAt (address : Endpoint) : runAt s' address depth = runAt s address depth := by
    simp only [runAt, serve, hserve, ha.udpBufferSize]
  simp only [run, hrunAt, ha.listenHost, ha.listenPort]

end Reflector

namespace Prober

/-- The settings that a prober goes by are the same. -/
structure Agree (s s' : Settings) : Prop where
  remoteHost : s'.remoteHost = s.remoteHost
  remotePort : s'.remotePort = s.remotePort
  greeting : s'.greeting = s.greeting
  udpBufferSize : s'.udpBufferSize = s.udpBufferSize
  udpTimeoutMs : s'.udpTimeoutMs = s.udpTimeoutMs
  udpIntervalMs : s'.udpIntervalMs = s.udpIntervalMs
  rounds : s'.rounds = s.rounds

/-- Probers that go by the same settings are the same program. -/
theorem run_of_agree {s s' : Settings} (ha : Agree s s') (depth : Nat) : run s' depth = run s depth := by
  have hawait (p : Progress) : await s' p = await s p := by
    rw [await, await, ha.udpBufferSize, ha.udpTimeoutMs]
  have hstep (remote : Endpoint) : step s' remote = step s remote := by
    funext p
    simp only [step, complete, probe, hawait, ha.greeting, ha.udpIntervalMs, ha.rounds]
    rfl
  have hrunTo (ip : Ip) : runTo s' ip depth = runTo s ip depth := by
    simp only [runTo, hstep, ha.remotePort, ha.udpBufferSize]
  simp only [run, hrunTo, ha.remoteHost]

end Prober
end Datagram
open NetBench.Stream NetBench.Datagram

/-- In each role, settings that agree where the role goes by them lead to the same traffic at the
same times and to the same end, over any number of runs and whatever the clock of either shows. The
roles over datagrams have no clock, and leave the same log too. -/
theorem traffic_of_agree (depth n : Nat) {s s' : Settings} :
    (Sender.Agree s s' → ∀ w clock readings, List.Forall₂ SameTraffic
      (playTimes (Script.Connections.handler _) (Sender.session s depth) n w)
      (playTimes (Script.Connections.handler _) (Sender.session s' depth) n
        { w with clock, readings })) ∧
    (Drain.Agree s s' → ∀ w clock readings, List.Forall₂ SameTraffic
      (playTimes (Script.Connections.handler _) (Drain.run s depth) n w)
      (playTimes (Script.Connections.handler _) (Drain.run s' depth) n { w with clock, readings })) ∧
    (Reflector.Agree s s' → ∀ w, playTimes Script.Datagrams.handler (Reflector.run s' depth) n w =
      playTimes Script.Datagrams.handler (Reflector.run s depth) n w) ∧
    (Prober.Agree s s' → ∀ w, playTimes Script.Datagrams.handler (Prober.run s' depth) n w =
      playTimes Script.Datagrams.handler (Prober.run s depth) n w) := by
  refine ⟨?_, ?_, ?_, ?_⟩
  · intro ha w clock readings
    exact sameTraffic_of_alike (Sender.alike_session ha depth) n w clock readings
  · intro ha w clock readings
    exact sameTraffic_of_alike (Drain.alike_run ha depth) n w clock readings
  · intro ha w
    rw [Reflector.run_of_agree ha]
  · intro ha w
    rw [Prober.run_of_agree ha]

/-- It takes the greeting and eight bytes of filler in two writes, and then fails. Its clock moves
by three seconds on every reading. -/
def slowWrites : Script.Connections where
  listens := []
  accepts := []
  connects := []
  reads := []
  writes := [.now (.ok .full), .now (.ok (.count 5)), .now (.ok (.count 3)), .now (.error .timedOut)]
  clock := Clock.stepping 0 3000000

def otherwiseSet : Settings := { Settings.default with
  role := .udpServer, listenHost := "::1", readBufferSize := 1, reportIntervalUs := 9000000,
  udpBufferSize := 1, rounds := some 2, logLevel := "trace" }

theorem traffic_of_agree_otherwiseSet :
    let sessions (s : Settings) := playTimes (Script.Connections.handler _) (Sender.session s 4) 2
    let still : Script.Connections := { slowWrites with clock := fun _ _ => 0, readings := 5 }
    Sender.Agree Settings.default otherwiseSet ∧
      (sessions Settings.default slowWrites).map (fun run => (events run.acts).length) = [7, 4] ∧
      (sessions otherwiseSet still).map (fun run => (events run.acts).length) = [4, 4] ∧
      List.Forall₂ SameTraffic (sessions Settings.default slowWrites) (sessions otherwiseSet still) := by
  have ha : Sender.Agree Settings.default otherwiseSet := ⟨rfl, rfl, rfl, rfl, rfl, rfl⟩
  exact ⟨ha, rfl, rfl, (traffic_of_agree 4 2).1 ha slowWrites (fun _ _ => 0) 5⟩

end NetBench
