import NetBench.Datagram.Prober
import NetBench.Datagram.Reflector
import NetBench.Proofs.Datagram.Network
import NetBench.Proofs.Text.Decoding
import NetBench.Settings.File

/-! A prober and a reflector over a network that loses datagrams. Every round that the network
leaves alone is an echo, and what is echoed is the probe, cut to the smaller of the two buffers. -/
namespace NetBench.Datagram
open Talk

namespace Reflector

def standing (t : Settings) (buffer : Buffer) (depth : Nat) : Program Failure :=
  Talk.loop (fun buffer => do return .inl (← serveOne t buffer)) depth buffer

def bounce (t : Settings) (peer : Endpoint) (data : List UInt8) : List (Act interface) :=
  [⟨.receive t.udpBufferSize.toNat none, some (.ok (data, peer))⟩,
    ⟨.note (.received peer data.length), some ()⟩, ⟨.send data peer, some (.ok data.length)⟩]

variable {t : Settings} {buffer : Buffer} {left : Nat} {w : Network}

private theorem standing_succ (t : Settings) (buffer : Buffer) (left : Nat) :
    ∃ next, standing t buffer (left + 1) = .ask (.receive t.udpBufferSize.toNat none) next ∧
      ∀ data peer, data.length ≤ buffer.size → settle (next (.ok (data, peer))) =
        ([⟨.note (.received peer data.length), some ()⟩,
          ⟨.send data peer, some (.ok data.length)⟩], standing t (buffer.store data) left) := by
  obtain ⟨next, hnext, hsettle⟩ : ∃ next,
      standing t buffer (left + 1) = .ask (.receive t.udpBufferSize.toNat none) next ∧
      ∀ data peer, settle (next (.ok (data, peer))) =
        ([⟨.note (.received peer data.length), some ()⟩,
          ⟨.send ((buffer.store data).front data.length) peer,
            some (.ok ((buffer.store data).front data.length).length)⟩],
          standing t (buffer.store data) left) := by
    cases left with
    | zero => exact ⟨_, rfl, fun _ _ => rfl⟩
    | succ left => exact ⟨_, rfl, fun _ _ => rfl⟩
  refine ⟨next, hnext, ?_⟩
  intro data peer hfits
  rw [hsettle, Buffer.front_store hfits]

/-- The far end is a reflector that waits, unfolded to at least `spare` more datagrams. -/
def Waits (t : Settings) (spare : Nat) (w : Network) : Prop :=
  ∃ buffer left, buffer.size = t.udpBufferSize.toNat ∧ spare ≤ left ∧ w.left = standing t buffer left

/-- What a datagram's fate leaves of it on record at the reflector. -/
def footprint (t : Settings) (near : Endpoint) (data : List UInt8) (fate : Fate) :
    List (Act interface) :=
  if fate = .requestLost then [] else bounce t near (data.take t.udpBufferSize.toNat)

private theorem deliver_waits {spare : Nat} (near : Endpoint) (lost : Bool) (data : List UInt8)
    (hw : Waits t (spare + 1) w) :
    Waits t spare (w.deliver near lost data) ∧ (w.deliver near lost data).round = w.round ∧
      (w.deliver near lost data).record = w.record ++ bounce t near (data.take t.udpBufferSize.toNat) ∧
      (w.deliver near lost data).replies =
        w.replies ++ if lost then [] else [data.take t.udpBufferSize.toNat] := by
  obtain ⟨buffer, left, hb, hspare, hl⟩ := hw
  obtain ⟨left, rfl⟩ : ∃ n, left = n + 1 := ⟨left - 1, by omega⟩
  obtain ⟨next, hnext, hsettle⟩ := standing_succ t buffer left
  have hs := hsettle (data.take t.udpBufferSize.toNat) near (hb ▸ List.length_take_le ..)
  have hsends (got : List UInt8) : sends [⟨.note (.received near got.length), some ()⟩,
      ⟨.send got near, some (.ok got.length)⟩] = [(got, near)] := rfl
  rw [Network.deliver, hl, hnext]
  simp only [hs, hsends]
  have hwaits : spare ≤ left := Nat.le_of_succ_le_succ hspare
  exact ⟨⟨buffer.store (data.take t.udpBufferSize.toNat), left, hb, hwaits, rfl⟩, trivial, rfl,
    by simp⟩

/-- What a datagram's fate does, when nothing else is on its way. -/
theorem carry_waits {spare : Nat} (near : Endpoint) (fate : Fate) (data : List UInt8)
    (hw : Waits t (spare + 1) w) (hr : w.replies = []) :
    Waits t spare (w.carry fate near data) ∧ (w.carry fate near data).round = w.round ∧
      (w.carry fate near data).record = w.record ++ footprint t near data fate ∧
      (w.carry fate near data).replies =
        if fate = .delivered then [data.take t.udpBufferSize.toNat] else [] := by
  cases fate with
  | delivered =>
    obtain ⟨hwaits, hround, hrecord, hreplies⟩ := deliver_waits near false data hw
    exact ⟨hwaits, hround, hrecord, by rw [Network.carry, hreplies, hr]; rfl⟩
  | requestLost =>
    obtain ⟨buffer, left, hb, hspare, hl⟩ := hw
    exact ⟨⟨buffer, left, hb, Nat.le_of_succ_le hspare, hl⟩, rfl, (List.append_nil _).symm, hr⟩
  | replyLost =>
    obtain ⟨hwaits, hround, hrecord, hreplies⟩ := deliver_waits near true data hw
    exact ⟨hwaits, hround, hrecord, by rw [Network.carry, hreplies, hr]; rfl⟩

private theorem start_run {own : Ip} (ht : parseAddress t.listenHost = .ok own) (limit : Nat) :
    Network.start (run t limit) =
      { record := [⟨.bind ⟨own, t.listenPort⟩, some (.ok ())⟩,
          ⟨.note (.echoListening ⟨own, t.listenPort⟩), some ()⟩]
        left := standing t (.blank t.udpBufferSize.toNat) limit
        replies := [] } := by
  have hrun : run t limit = runAt t ⟨own, t.listenPort⟩ limit := by simp only [run, ht]
  rw [hrun]
  cases limit <;> rfl

private theorem receives_append (front back : List (Act interface)) :
    receives (front ++ back) = receives front ++ receives back := List.filterMap_append

private theorem sends_append (front back : List (Act interface)) :
    sends (front ++ back) = sends front ++ sends back := List.filterMap_append

private theorem datagrams_footprints (near : Endpoint) (data : List UInt8) (fate : Nat → Fate)
    (rounds : List Nat) :
    let record := rounds.flatMap fun i => footprint t near data (fate i)
    let datagrams := List.replicate (rounds.countP (fate · ≠ .requestLost))
      (data.take t.udpBufferSize.toNat, near)
    receives record = datagrams ∧ sends record = datagrams := by
  induction rounds with
  | nil => exact ⟨rfl, rfl⟩
  | cons i rounds ih =>
    obtain ⟨hr, hs⟩ := ih
    have hreceived (got : List UInt8) : receives (bounce t near got) = [(got, near)] := rfl
    have hsent (got : List UInt8) : sends (bounce t near got) = [(got, near)] := rfl
    intro record datagrams
    by_cases hf : fate i = .requestLost
    · have hrecord : record = rounds.flatMap fun i => footprint t near data (fate i) := by
        simp [record, footprint, hf]
      have hcount : datagrams = List.replicate (rounds.countP (fate · ≠ .requestLost))
          (data.take t.udpBufferSize.toNat, near) := by simp [datagrams, hf]
      rw [hrecord, hcount]
      exact ⟨hr, hs⟩
    · have hrecord : record = bounce t near (data.take t.udpBufferSize.toNat) ++
          rounds.flatMap fun i => footprint t near data (fate i) := by
        simp [record, footprint, hf]
      have hcount : datagrams = (data.take t.udpBufferSize.toNat, near) :: List.replicate
          (rounds.countP (fate · ≠ .requestLost)) (data.take t.udpBufferSize.toNat, near) := by
        simp [datagrams, hf, List.replicate_succ]
      rw [hrecord, hcount, receives_append, sends_append, hreceived, hsent, hr, hs]
      exact ⟨rfl, rfl⟩

end Reflector

namespace Prober

/-- What a reply is: the probe, cut to the buffer of the reflector and to that of the prober. -/
def echo (s t : Settings) : List UInt8 :=
  (probe s).take (min t.udpBufferSize.toNat s.udpBufferSize.toNat)

/-- What a round logs, the first round being number zero. -/
def roundLog (s t : Settings) (far : Endpoint) (fate : Nat → Fate) (round : Nat) : Event :=
  if fate round = .delivered then .echoed far (echo s t) else .roundTimedOut (round + 1)

variable {s t : Settings} {fate : Nat → Fate} {near : Endpoint} {p : Progress} {w : Network}

private theorem play_step_of_nil (far : Endpoint) (hc : complete s p.round = false)
    (hr : (w.carry (fate w.round) near (probe s)).replies = []) :
    let sent := w.carry (fate w.round) near (probe s)
    let run := play (Network.handler fate near far) (step s far p) w
    run.ending = .returned (.inl ⟨p.round + 1, p.echoes, p.buffer⟩) ∧
      events run.acts = [.roundTimedOut (p.round + 1)] ∧
      run.world = { sent with round := sent.round + 1 } := by
  intro sent run
  simp only [run, step, hc, Bool.false_eq_true, if_false]
  simp [send, await, receive, pause, note, play, Network.handler, Network.answer, hr]
  exact ⟨rfl, rfl, rfl, hr, rfl⟩

private theorem play_step_of_cons {reply : List UInt8} (far : Endpoint)
    (hc : complete s p.round = false) (hp : p.buffer.size = s.udpBufferSize.toNat)
    (hr : (w.carry (fate w.round) near (probe s)).replies = [reply]) :
    let sent := w.carry (fate w.round) near (probe s)
    let got := reply.take s.udpBufferSize.toNat
    let run := play (Network.handler fate near far) (step s far p) w
    run.ending = .returned (.inl ⟨p.round + 1, p.echoes + 1, p.buffer.store got⟩) ∧
      events run.acts = [.echoed far got] ∧
      run.world = { sent with replies := [], round := sent.round + 1 } := by
  intro sent got run
  have hfront : (p.buffer.store got).front got.length = got :=
    Buffer.front_store (hp ▸ List.length_take_le ..)
  simp only [run, step, hc, Bool.false_eq_true, if_false]
  simp [send, await, receive, pause, note, play, Network.handler, Network.answer, hr]
  exact ⟨rfl, congrArg (fun data => [Event.echoed far data]) hfront, rfl, rfl, rfl⟩

private theorem play_step {spare : Nat} (fate : Nat → Fate) (near far : Endpoint)
    (hc : complete s p.round = false)
    (hp : p.buffer.size = s.udpBufferSize.toNat) (hr : w.round = p.round) (hn : w.replies = [])
    (hw : Reflector.Waits t (spare + 1) w) :
    let run := play (Network.handler fate near far) (step s far p) w
    (∃ buffer, buffer.size = s.udpBufferSize.toNat ∧ run.ending = .returned (.inl ⟨p.round + 1,
        p.echoes + if fate p.round = .delivered then 1 else 0, buffer⟩)) ∧
      events run.acts = [roundLog s t far fate p.round] ∧
      run.world.record = w.record ++ Reflector.footprint t near (probe s) (fate p.round) ∧
      run.world.round = p.round + 1 ∧ run.world.replies = [] ∧ Reflector.Waits t spare run.world := by
  intro run
  obtain ⟨hwaits, hround, hrecord, hreplies⟩ :=
    Reflector.carry_waits near (fate w.round) (probe s) hw hn
  by_cases hf : fate w.round = .delivered
  · rw [if_pos hf] at hreplies
    obtain ⟨he, hlog, hworld⟩ := play_step_of_cons far hc hp hreplies
    have hecho : ((probe s).take t.udpBufferSize.toNat).take s.udpBufferSize.toNat = echo s t := by
      rw [List.take_take, Nat.min_comm, echo]
    rw [hecho] at he hlog
    rw [hr] at hf
    refine ⟨⟨p.buffer.store (echo s t), hp, ?_⟩, ?_, ?_⟩
    · rw [if_pos hf]
      exact he
    · rw [roundLog, if_pos hf]
      exact hlog
    · rw [hworld]
      exact ⟨hr ▸ hrecord, by rw [hround, hr], rfl, hwaits⟩
  · rw [if_neg hf] at hreplies
    obtain ⟨he, hlog, hworld⟩ := play_step_of_nil far hc hreplies
    rw [hr] at hf
    refine ⟨⟨p.buffer, hp, ?_⟩, ?_, ?_⟩
    · rw [if_neg hf]
      exact he
    · rw [roundLog, if_neg hf]
      exact hlog
    · rw [hworld]
      exact ⟨hr ▸ hrecord, by rw [hround, hr], hreplies, hwaits⟩

private theorem events_append (front back : List (Act interface)) :
    events (front ++ back) = events front ++ events back := List.filterMap_append

private theorem play_rounds {R : UInt64} (hR : s.rounds = some R) (fate : Nat → Fate)
    (near far : Endpoint) {k depth : Nat} (hk : p.round + k = R.toNat) (hd : k < depth)
    (hp : p.buffer.size = s.udpBufferSize.toNat) (hr : w.round = p.round)
    (hn : w.replies = []) (hw : Reflector.Waits t (k + 1) w) :
    let run := play (Network.handler fate near far) (loop (step s far) depth p) w
    let rounds := List.range' p.round k
    run.ending = .returned (.ok (p.echoes + rounds.countP (fate · = .delivered))) ∧
      events run.acts = rounds.map (roundLog s t far fate) ∧
      run.world.record = w.record ++
        rounds.flatMap (fun i => Reflector.footprint t near (probe s) (fate i)) ∧
      Reflector.Waits t 1 run.world := by
  obtain ⟨depth, rfl⟩ : ∃ n, depth = n + 1 := ⟨depth - 1, by omega⟩
  induction k generalizing p w depth with
  | zero =>
    have hc : complete s p.round = true := by
      rw [complete, hR]
      exact decide_eq_true (by omega)
    have hstep : step s far p = .ask .close fun _ => .done (.inr (.ok p.echoes)) := by
      rw [step, if_pos hc]
      rfl
    have he : (play (Network.handler fate near far) (step s far p) w).ending =
        .returned (.inr (.ok p.echoes)) := by rw [hstep]; rfl
    intro run rounds
    have hrun : run = _ := play_loop_inr he depth
    rw [hrun, hstep]
    exact ⟨rfl, rfl, (List.append_nil _).symm, hw⟩
  | succ k ih =>
    have hc : complete s p.round = false := by
      rw [complete, hR]
      exact decide_eq_false (by omega)
    obtain ⟨⟨buffer, hb, he⟩, hlog, hrecord, hround, hnone, hwaits⟩ :=
      play_step fate near far hc hp hr hn hw
    obtain ⟨depth, rfl⟩ : ∃ n, depth = n + 1 := ⟨depth - 1, by omega⟩
    have hk' : p.round + 1 + k = R.toNat := by omega
    obtain ⟨hend, hlater, hmore, hwaits'⟩ :=
      ih (p := ⟨p.round + 1, _, buffer⟩) hk' hb hround hnone hwaits depth (by omega)
    intro run rounds
    have hrun : run = _ := play_loop_inl he (depth + 1)
    have hrounds : rounds = p.round :: List.range' (p.round + 1) k := List.range'_succ
    rw [hrun, hrounds]
    refine ⟨?_, ?_, ?_, hwaits'⟩
    · rw [hend, List.countP_cons]
      by_cases hf : fate p.round = .delivered
      · simp [hf]
        omega
      · simp [hf]
    · refine (congrArg events List.map_append).trans ((events_append _ _).trans ?_)
      exact (congrArg (· ++ _) hlog).trans (congrArg ([_] ++ ·) hlater)
    · rw [hmore, hrecord, List.flatMap_cons, List.append_assoc]

private theorem echoed_roundLog (fate : Nat → Fate) (far : Endpoint) (i : Nat) :
    ((roundLog s t far fate i).message == "Received message") = decide (fate i = .delivered) := by
  by_cases hf : fate i = .delivered
  · rw [roundLog, if_pos hf, decide_eq_true hf]
    rfl
  · rw [roundLog, if_neg hf, decide_eq_false hf]
    rfl

private theorem play_run {ip own : Ip} (hs : parseAddress s.remoteHost = .ok ip)
    (ht : parseAddress t.listenHost = .ok own) {R : UInt64} (hR : s.rounds = some R)
    (fate : Nat → Fate) (near : Endpoint) {depth limit : Nat} (hd : R.toNat < depth)
    (hl : R.toNat < limit) :
    let far : Endpoint := ⟨ip, s.remotePort⟩
    let start := Network.start (Reflector.run t limit)
    let run := play (Network.handler fate near far) (run s depth) start
    run.ending = .returned (.ok ((List.range R.toNat).countP (fate · = .delivered))) ∧
      events run.acts = (List.range R.toNat).map (roundLog s t far fate) ∧
      run.world.record = start.record ++
        (List.range R.toNat).flatMap (fun i => Reflector.footprint t near (probe s) (fate i)) ∧
      Reflector.Waits t 1 run.world := by
  intro far start run
  have hstart := Reflector.start_run ht limit
  have hwaits : Reflector.Waits t (R.toNat + 1) start := ⟨_, limit, rfl, hl, congrArg _ hstart⟩
  have hnone : start.replies = [] := congrArg Network.replies hstart
  have hrounds := play_rounds (s := s) (p := ⟨0, 0, .blank s.udpBufferSize.toNat⟩) hR fate near
    far (Nat.zero_add _) hd rfl rfl hnone hwaits
  have hprober : Prober.run s depth = runTo s ip depth := by simp only [Prober.run, hs]
  simp only [Nat.zero_add, ← List.range_eq_range'] at hrounds
  have hrun : run = play (Network.handler fate near far) (runTo s ip depth) start :=
    congrArg (play (Network.handler fate near far) · start) hprober
  rw [hrun]
  exact hrounds

end Prober

def lost (fate : Nat → Fate) (rounds : Nat) : Nat :=
  (List.range rounds).countP (fate · ≠ .delivered)

def reached (fate : Nat → Fate) (rounds : Nat) : Nat :=
  (List.range rounds).countP (fate · ≠ .requestLost)

/-- A prober of so many rounds, over a network that loses what it likes, returns the number of
rounds that were not lost. The reflector sends back once what it receives, and every echo that is
logged is the probe, as far as both buffers hold it. -/
theorem echoes_over_lossy_network (s t : Settings) {ip own : Ip}
    (hs : parseAddress s.remoteHost = .ok ip) (ht : parseAddress t.listenHost = .ok own)
    {R : UInt64} (hR : s.rounds = some R) (fate : Nat → Fate) (near : Endpoint) {depth limit : Nat}
    (hd : R.toNat < depth) (hl : R.toNat < limit) :
    let far : Endpoint := ⟨ip, s.remotePort⟩
    let request := Prober.probe s
    let reply := request.take (min t.udpBufferSize.toNat s.udpBufferSize.toNat)
    let run := play (Network.handler fate near far) (Prober.run s depth)
      (.start (Reflector.run t limit))
    run.ending = .returned (.ok (R.toNat - lost fate R.toNat)) ∧
      receives run.world.record =
        List.replicate (reached fate R.toNat) (request.take t.udpBufferSize.toNat, near) ∧
      sends run.world.record = receives run.world.record ∧
      (events run.acts).countP (·.message == "Received message") = R.toNat - lost fate R.toNat ∧
      (∀ e ∈ events run.acts, e.message = "Received message" →
        e.fields.lookup "message" = some (.text (Text.textOf reply))) ∧
      (request.length ≤ t.udpBufferSize.toNat → request.length ≤ s.udpBufferSize.toNat →
        Text.textOf reply = s.greeting.push '\x00') ∧
      Records (fun _ => True) (Reflector.run t limit)
        (run.world.record ++ [⟨.receive t.udpBufferSize.toNat none, none⟩]) .waiting := by
  intro far request reply run
  obtain ⟨hend, hlog, hrecord, buffer, left, -, hspare, hleft⟩ :=
    Prober.play_run hs ht hR fate near hd hl
  have hdelivered : (List.range R.toNat).countP (fate · = .delivered) =
      R.toNat - lost fate R.toNat := by
    have hall := List.length_eq_countP_add_countP (l := List.range R.toNat) (fate · = .delivered)
    simp only [List.length_range, decide_eq_true_eq] at hall
    simp only [lost, ne_eq]
    omega
  have hopening : receives (Network.start (Reflector.run t limit)).record = [] ∧
      sends (Network.start (Reflector.run t limit)).record = [] := by
    rw [Reflector.start_run ht]
    exact ⟨rfl, rfl⟩
  obtain ⟨hreceives, hsends⟩ := Reflector.datagrams_footprints near request fate (List.range R.toNat)
  refine ⟨?_, ?_, ?_, ?_, ?_, ?_, ?_⟩
  · rw [← hdelivered]
    exact hend
  · rw [hrecord, Reflector.receives_append, hopening.1, hreceives]
    rfl
  · rw [hrecord, Reflector.receives_append, Reflector.sends_append, hopening.1, hopening.2, hreceives,
      hsends]
  · rw [hlog, List.countP_map, ← hdelivered]
    apply List.countP_congr
    intro i hi
    rw [Function.comp_apply, Prober.echoed_roundLog]
  · intro e he hm
    rw [hlog] at he
    obtain ⟨i, -, rfl⟩ := List.mem_map.mp he
    have hf : fate i = .delivered := by
      have hb := Prober.echoed_roundLog (s := s) (t := t) fate far i
      rw [hm] at hb
      exact of_decide_eq_true hb.symm
    rw [Prober.roundLog, if_pos hf]
    rfl
  · intro hfar hnear
    have hwhole : reply = request := List.take_of_length_le (Nat.le_min.mpr ⟨hfar, hnear⟩)
    rw [hwhole]
    exact Text.textOf_utf8_zero s.greeting
  · obtain ⟨left, rfl⟩ : ∃ n, left = n + 1 := ⟨left - 1, by omega⟩
    have hfaithful := Network.faithful_play fate near far (Prober.run s depth)
      (Network.faithful_start (Reflector.run t limit))
    apply hfaithful
    rw [hleft]
    exact .waiting trivial

def fading : Nat → Fate
  | 0 => .delivered
  | 1 => .requestLost
  | _ => .replyLost

def asker : Endpoint := ⟨.v4 ⟨192, 168, 1, 7⟩, 40000⟩

def threeRounds : Settings := { Settings.default with rounds := some 3 }

def tightBuffer : Settings := { Settings.default with udpBufferSize := 4 }

theorem echoes_over_lossy_network_fading :
    let run := play (Network.handler fading asker ⟨.v4 ⟨192, 168, 1, 102⟩, 12344⟩)
      (Prober.run threeRounds 4) (.start (Reflector.run tightBuffer 4))
    parseAddress threeRounds.remoteHost = .ok (.v4 ⟨192, 168, 1, 102⟩) ∧
      parseAddress tightBuffer.listenHost = .ok (.v4 .unspecified) ∧
      run.ending = .returned (.ok 1) ∧ sends run.world.record = receives run.world.record ∧
      receives run.world.record = [(Text.utf8 "Hell", asker), (Text.utf8 "Hell", asker)] := by
  have hs : parseAddress threeRounds.remoteHost = .ok (.v4 ⟨192, 168, 1, 102⟩) := rfl
  have ht : parseAddress tightBuffer.listenHost = .ok (.v4 .unspecified) := rfl
  have hd : UInt64.toNat 3 < 4 := by decide
  obtain ⟨hend, hreceives, hsends, -⟩ :=
    echoes_over_lossy_network threeRounds tightBuffer hs ht rfl fading asker hd hd
  exact ⟨hs, ht, hend, hsends, hreceives⟩

end NetBench.Datagram
