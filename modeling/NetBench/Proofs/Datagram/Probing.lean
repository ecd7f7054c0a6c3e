import Mathlib.Data.List.Basic
import NetBench.Datagram.Prober
import NetBench.Proofs.Datagram.Acts
import NetBench.Proofs.Datagram.Network
import NetBench.Settings.File

/-! The rounds of a prober and their times. Whatever its receives give, a prober sends once per
round, until it has sent often enough or a send fails; it closes its socket last. -/
namespace NetBench.Datagram.Prober
open Talk

/-- A round whose send went well: what its two calls gave, and when the receive began and ended. -/
structure Round where
  taken : Nat
  asked : Nat
  got : Except Fault (List UInt8 × Endpoint)
  ended : Nat

def outcome (s : Settings) (number : Nat) : Except Fault (List UInt8 × Endpoint) → Event
  | .ok (data, peer) => .echoed peer (data.take s.udpBufferSize.toNat)
  | .error .timedOut => .roundTimedOut number
  | .error why => .roundFailed number why

namespace Round

/-- A round that begins at `start`. -/
def trace (s : Settings) (remote : Endpoint) (number start : Nat) (r : Round) :
    List (Exchange interface) :=
  [⟨.send (probe s) remote, some (.ok r.taken), start⟩,
    ⟨.receive s.udpBufferSize.toNat (some s.udpTimeoutMs.toNat), some r.got, r.asked⟩,
    ⟨.note (outcome s number r.got), some (), r.ended⟩,
    ⟨.pause s.udpIntervalMs.toNat, some (), r.ended⟩]

/-- When what follows a round begins: one interval after its receive ended, or the longest wait. -/
def next (s : Settings) (r : Round) : Nat := r.ended + Clock.lasting s.udpIntervalMs.toNat

end Round

/-- Consecutive rounds, the first of them with the given number and beginning at `start`. -/
def roundsTrace (s : Settings) (remote : Endpoint) :
    (number start : Nat) → List Round → List (Exchange interface)
  | _, _, [] => []
  | number, start, r :: rounds =>
    r.trace s remote number start ++ roundsTrace s remote (number + 1) (r.next s) rounds

def roundsEnd (s : Settings) : (start : Nat) → List Round → Nat
  | start, [] => start
  | _, r :: rounds => roundsEnd s (r.next s) rounds

/-- What follows the rounds, from the given time on: the end after enough of them, the end after a
send that failed, or the rest that the loop is not unfolded to. -/
inductive Concluded (s : Settings) (remote : Endpoint) (rounds echoes now : Nat) :
    List (Exchange interface) → Ending (Except Failure Nat) → Prop where
  | complete : complete s rounds = true →
      Concluded s remote rounds echoes now [⟨.close, some (), now⟩] (.returned (.ok echoes))
  | refused (why : Fault) (after : Nat) : Prober.complete s rounds = false →
      Concluded s remote rounds echoes now
        [⟨.send (probe s) remote, some (.error why), now⟩, ⟨.note (.sendFailed remote why), some (), after⟩,
          ⟨.close, some (), after⟩] (.returned (.error (.send why)))
  | unfinished : Concluded s remote rounds echoes now [] .unfinished

/-- Surroundings in which the log takes no time, and a pause the time it asks for, up to the longest
wait. -/
structure Punctual {σ : Type} (h : Handler interface σ) : Prop where
  note : ∀ e w, h.moment (h.answer (.note e) w).2 = h.moment w
  pause : ∀ n w, h.moment (h.answer (.pause n) w).2 = h.moment w + Clock.lasting n

theorem punctual_script : Punctual Script.Datagrams.handler := ⟨fun _ _ => rfl, fun _ _ => rfl⟩

variable {σ : Type} {h : Handler interface σ} {s : Settings} {p : Progress} {w : σ}

def Progress.begin (p : Progress) : Progress := { p with round := p.round + 1 }

def Progress.after (p : Progress) : Except Fault (List UInt8 × Endpoint) → Progress
  | .ok (data, _) => { p with echoes := p.echoes + 1, buffer := p.buffer.store data }
  | .error _ => p

@[simp] theorem round_begin (p : Progress) : p.begin.round = p.round + 1 := rfl

@[simp] theorem echoes_begin (p : Progress) : p.begin.echoes = p.echoes := rfl

@[simp] theorem round_after (p : Progress) (got : Except Fault (List UInt8 × Endpoint)) :
    (p.after got).round = p.round := by
  cases got <;> rfl

@[simp] theorem size_after (p : Progress) (got : Except Fault (List UInt8 × Endpoint)) :
    (p.after got).buffer.size = p.buffer.size := by
  cases got <;> rfl

@[simp] theorem echoes_after (p : Progress) (got : Except Fault (List UInt8 × Endpoint)) :
    (p.after got).echoes = p.echoes + if got.isOk then 1 else 0 := by
  cases got <;> rfl

private theorem front_store_take (data : List UInt8) (b : Buffer) :
    (b.store data).front data.length = data.take b.size := by
  rw [Buffer.front_eq_take, Buffer.toList_store]
  rcases Nat.le_total data.length b.size with hle | hle
  · simp [List.take_of_length_le hle]
  · rw [List.drop_eq_nil_of_le (by simpa using hle), List.append_nil]
    exact List.take_of_length_le (Nat.le_trans (List.length_take_le _ _) hle)

private theorem await_eq (hb : p.buffer.size = s.udpBufferSize.toNat) :
    await s p = .ask (.receive s.udpBufferSize.toNat (some s.udpTimeoutMs.toNat)) fun got =>
      .ask (.note (outcome s p.round got)) fun _ => .done (p.after got) := by
  apply congrArg (Talk.ask _)
  funext got
  rcases got with why | ⟨data, peer⟩
  · cases why <;> rfl
  · have hfront : (p.buffer.store data).front data.length = data.take s.udpBufferSize.toNat :=
      hb ▸ front_store_take data p.buffer
    rw [outcome, ← hfront]
    rfl

theorem step_eq (remote : Endpoint) (hc : complete s p.round = false)
    (hb : p.buffer.size = s.udpBufferSize.toNat) :
    step s remote p = .ask (.send (probe s) remote) fun
      | .error why => .ask (.note (.sendFailed remote why)) fun _ =>
          .ask .close fun _ => .done (.inr (.error (.send why)))
      | .ok _ => .ask (.receive s.udpBufferSize.toNat (some s.udpTimeoutMs.toNat)) fun got =>
          .ask (.note (outcome s (p.round + 1) got)) fun _ =>
            .ask (.pause s.udpIntervalMs.toNat) fun _ => .done (.inl (p.begin.after got)) := by
  unfold step
  rw [hc]
  apply congrArg (Talk.ask _)
  funext sent
  cases sent with
  | error why => rfl
  | ok taken =>
    change (await s p.begin >>= fun p =>
      (pause s.udpIntervalMs.toNat >>= fun _ => .done (.inl p) : Program (Progress ⊕ _))) = _
    have hbegin : p.begin.buffer.size = s.udpBufferSize.toNat := hb
    rw [await_eq hbegin]
    rfl

private theorem play_round (hp : Punctual h) (remote : Endpoint) (hc : complete s p.round = false)
    (hb : p.buffer.size = s.udpBufferSize.toNat)
    (hw : (play h (step s remote p) w).ending ≠ .waiting) :
    let run := play h (step s remote p) w
    (∃ r : Round, run.ending = .returned (.inl (p.begin.after r.got)) ∧
        run.trace = r.trace s remote (p.round + 1) (h.moment w) ∧ h.moment run.world = r.next s) ∨
      ∃ why after, run.ending = .returned (.inr (.error (.send why))) ∧
        run.trace = [⟨.send (probe s) remote, some (.error why), h.moment w⟩,
          ⟨.note (.sendFailed remote why), some (), after⟩, ⟨.close, some (), after⟩] := by
  rw [step_eq remote hc hb] at hw ⊢
  obtain ⟨sent, -, hw, hrun⟩ := play_ask_of_ne_waiting hw
  rw [hrun]
  change Except Fault Nat at sent
  cases sent with
  | error why =>
    obtain ⟨_, -, hw, hrun⟩ := play_ask_of_ne_waiting hw
    rw [hrun]
    obtain ⟨_, -, -, hrun⟩ := play_ask_of_ne_waiting hw
    rw [hrun, hp.note]
    exact .inr ⟨why, _, rfl, rfl⟩
  | ok taken =>
    obtain ⟨got, -, hw, hrun⟩ := play_ask_of_ne_waiting hw
    rw [hrun]
    obtain ⟨_, -, hw, hrun⟩ := play_ask_of_ne_waiting hw
    rw [hrun]
    obtain ⟨_, -, -, hrun⟩ := play_ask_of_ne_waiting hw
    rw [hrun, hp.note]
    exact .inl ⟨⟨taken, _, got, _⟩, rfl, rfl, by rw [play_done, hp.pause, hp.note]; rfl⟩

theorem complete_eq_true {n : Nat} :
    complete s n = true ↔ ∃ R, s.rounds = some R ∧ R.toNat ≤ n := by
  cases hs : s.rounds <;> simp [complete, hs]

private theorem complete_eq_false {n : Nat} :
    complete s n = false ↔ ∀ R, s.rounds = some R → n < R.toNat := by
  cases hs : s.rounds <;> simp [complete, hs]

private theorem play_loop (hp : Punctual h) (remote : Endpoint) (depth : Nat)
    (hb : p.buffer.size = s.udpBufferSize.toNat) (hr : ∀ R, s.rounds = some R → p.round ≤ R.toNat)
    (hw : (play h (loop (step s remote) depth p) w).ending ≠ .waiting) :
    let run := play h (loop (step s remote) depth p) w
    ∃ rounds tail,
      run.trace = roundsTrace s remote (p.round + 1) (h.moment w) rounds ++ tail ∧
      Concluded s remote (p.round + rounds.length) (p.echoes + rounds.countP (·.got.isOk))
        (roundsEnd s (h.moment w) rounds) tail run.ending ∧
      (∀ R, s.rounds = some R → p.round + rounds.length ≤ R.toNat) ∧
      (run.ending = .unfinished → rounds.length = depth) := by
  induction depth generalizing p w with
  | zero => exact ⟨[], [], rfl, .unfinished, hr, fun _ => rfl⟩
  | succ depth ih =>
    have hstep : (play h (step s remote p) w).ending ≠ .waiting :=
      fun he => hw (play_bind_of_waiting he _)
    intro run
    cases hc : complete s p.round with
    | true =>
      have hclose : step s remote p = .ask .close fun _ => .done (.inr (.ok p.echoes)) := by
        rw [step, if_pos hc]
        rfl
      rw [hclose] at hstep
      obtain ⟨_, -, -, hturn⟩ := play_ask_of_ne_waiting hstep
      rw [← hclose] at hturn
      have hrun : run = _ := play_loop_inr (congrArg Run.ending hturn) depth
      rw [hrun, hturn]
      exact ⟨[], [⟨.close, some (), h.moment w⟩], rfl, .complete hc, hr, nofun⟩
    | false =>
      rcases play_round hp remote hc hb hstep with ⟨r, he, ht, hm⟩ | ⟨why, after, he, ht⟩
      · have hrun : run = _ := play_loop_inl he depth
        have hlater : (play h (loop (step s remote) depth (p.begin.after r.got))
            (play h (step s remote p) w).world).ending ≠ .waiting := by
          intro hlater
          exact hw ((congrArg Run.ending hrun).trans hlater)
        have hbegin : ∀ R, s.rounds = some R → (p.begin.after r.got).round ≤ R.toNat := by
          intro R hR
          rw [round_after]
          exact complete_eq_false.mp hc R hR
        obtain ⟨rounds, tail, htrace, hend, hmost, hcut⟩ := ih (by rwa [size_after]) hbegin hlater
        simp only [round_after, echoes_after, round_begin, echoes_begin, hm] at htrace hend hmost
        refine ⟨r :: rounds, tail, ?_, ?_, ?_, ?_⟩
        · rw [hrun, ht, htrace, roundsTrace, List.append_assoc]
        · have hdone : p.round + (r :: rounds).length = p.round + 1 + rounds.length := by
            rw [List.length_cons, Nat.add_assoc, Nat.add_comm 1]
          have hheard : p.echoes + (r :: rounds).countP (·.got.isOk) =
              p.echoes + (if r.got.isOk then 1 else 0) + rounds.countP (·.got.isOk) := by
            rw [List.countP_cons, Nat.add_assoc, Nat.add_comm (List.countP _ _)]
          rw [hrun, hdone, hheard]
          exact hend
        · intro R hR
          have := hmost R hR
          rw [List.length_cons]
          omega
        · intro hu
          rw [hrun] at hu
          rw [List.length_cons, hcut hu]
      · have hrun : run = _ := play_loop_inr he depth
        rw [hrun, ht]
        exact ⟨[], _, rfl, .refused why after hc, hr, nofun⟩

def refusal (s : Settings) (remote : Endpoint) (why : Fault) : Act interface :=
  ⟨.send (probe s) remote, some (.error why)⟩

/-- Whether an act completes, and without failing if it is to bind or to send. -/
def goesWell : Act interface → Bool
  | ⟨.bind _, some (.error _)⟩ | ⟨.send _ _, some (.error _)⟩ | ⟨_, none⟩ => false
  | _ => true

/-- How many sends a record has, how many receives, and how many of those got something. -/
structure Counted (acts : List (Act interface)) (sent received echoes : Nat) : Prop where
  sends_length : (sends acts).length = sent
  hearings_length : (hearings acts).length = received
  receives_length : (receives acts).length = echoes

theorem Counted.append {front back : List (Act interface)} {sent received echoes : Nat}
    {sent' received' echoes' : Nat} (hf : Counted front sent received echoes)
    (hb : Counted back sent' received' echoes') :
    Counted (front ++ back) (sent + sent') (received + received') (echoes + echoes') := by
  obtain ⟨hs, hh, hr⟩ := hf
  obtain ⟨hs', hh', hr'⟩ := hb
  rw [sends] at hs hs'
  rw [hearings] at hh hh'
  rw [receives] at hr hr'
  constructor
  · rw [sends, List.filterMap_append, List.length_append, hs, hs']
  · rw [hearings, List.filterMap_append, List.length_append, hh, hh']
  · rw [receives, List.filterMap_append, List.length_append, hr, hr']

/-- A record with no failed send in it, and the socket still open. -/
structure Open (s : Settings) (remote : Endpoint) (acts : List (Act interface)) : Prop where
  refusal_not_mem : ∀ why, refusal s remote why ∉ acts
  close_not_mem : ∀ x ∈ acts, x.1 ≠ .close

private theorem Open.append {front back : List (Act interface)} {remote : Endpoint}
    (hf : Open s remote front) (hb : Open s remote back) : Open s remote (front ++ back) where
  refusal_not_mem why hx :=
    (List.mem_append.mp hx).elim (hf.refusal_not_mem why) (hb.refusal_not_mem why)
  close_not_mem x hx := (List.mem_append.mp hx).elim (hf.close_not_mem x) (hb.close_not_mem x)

private theorem counted_roundsTrace (s : Settings) (remote : Endpoint) (number start : Nat)
    (rounds : List Round) :
    let acts := (roundsTrace s remote number start rounds).map Exchange.act
    Counted acts rounds.length rounds.length (rounds.countP (·.got.isOk)) ∧ Open s remote acts := by
  induction rounds generalizing number start with
  | nil => exact ⟨⟨rfl, rfl, rfl⟩, fun _ => List.not_mem_nil, List.forall_mem_nil _⟩
  | cons r rounds ih =>
    obtain ⟨hcounted, hopen⟩ := ih (number + 1) (r.next s)
    have hr : Counted ((r.trace s remote number start).map Exchange.act) 1 1
        (if r.got.isOk then 1 else 0) := by
      obtain ⟨taken, asked, got, ended⟩ := r
      cases got <;> exact ⟨rfl, rfl, rfl⟩
    have ho : Open s remote ((r.trace s remote number start).map Exchange.act) := by
      constructor <;> simp [Round.trace, Exchange.act, refusal]
    intro acts
    have hacts : acts = (r.trace s remote number start).map Exchange.act ++
        (roundsTrace s remote (number + 1) (r.next s) rounds).map Exchange.act := List.map_append
    rw [hacts, List.length_cons, List.countP_cons, Nat.add_comm rounds.length,
      Nat.add_comm (List.countP _ _)]
    exact ⟨hr.append hcounted, ho.append hopen⟩

theorem counted_bound (s : Settings) (address remote : Endpoint) (now start : Nat)
    (rounds : List Round) :
    let acts := (⟨.bind address, some (.ok ()), now⟩ :: roundsTrace s remote 1 start rounds).map
      Exchange.act
    Counted acts rounds.length rounds.length (rounds.countP (·.got.isOk)) ∧ Open s remote acts := by
  obtain ⟨hcounted, hopen⟩ := counted_roundsTrace s remote 1 start rounds
  have hbind : Counted [⟨.bind address, some (.ok ())⟩] 0 0 0 := ⟨rfl, rfl, rfl⟩
  have hfirst : Open s remote [⟨.bind address, some (.ok ())⟩] := by
    constructor <;> simp [refusal]
  have hboth := hbind.append hcounted
  simp only [Nat.zero_add] at hboth
  exact ⟨hboth, hfirst.append hopen⟩

/-- A run that is bound goes in rounds. -/
theorem play_bound (hp : Punctual h) {ip : Ip} (hs : parseAddress s.remoteHost = .ok ip)
    (depth : Nat) (hb : (h.answer (.bind ⟨ip.unspecifiedLike, 0⟩) w).1 = some (.ok ()))
    (hw : (play h (run s depth) w).ending ≠ .waiting) :
    let run := play h (run s depth) w
    let start := h.moment (h.answer (.bind ⟨ip.unspecifiedLike, 0⟩) w).2
    ∃ rounds tail,
      run.trace = ⟨.bind ⟨ip.unspecifiedLike, 0⟩, some (.ok ()), h.moment w⟩ ::
        (roundsTrace s ⟨ip, s.remotePort⟩ 1 start rounds ++ tail) ∧
      Concluded s ⟨ip, s.remotePort⟩ rounds.length (rounds.countP (·.got.isOk))
        (roundsEnd s start rounds) tail run.ending ∧
      (∀ R, s.rounds = some R → rounds.length ≤ R.toNat) ∧
      (run.ending = .unfinished → rounds.length = depth) := by
  intro run start
  obtain ⟨later, hlater, hrun⟩ : ∃ later, later = play h (loop (step s ⟨ip, s.remotePort⟩) depth
        ⟨0, 0, .blank s.udpBufferSize.toNat⟩) (h.answer (.bind ⟨ip.unspecifiedLike, 0⟩) w).2 ∧
      run = ⟨⟨.bind ⟨ip.unspecifiedLike, 0⟩, some (.ok ()), h.moment w⟩ :: later.trace, later.ending,
        later.world⟩ := by
    have hprober : Prober.run s depth = runTo s ip depth := by simp only [Prober.run, hs]
    refine ⟨_, rfl, ?_⟩
    rw [show run = play h (Prober.run s depth) w from rfl, hprober]
    exact play_ask_some hb _
  have hw : later.ending ≠ .waiting := fun he => hw ((congrArg Run.ending hrun).trans he)
  rw [hlater] at hw
  obtain ⟨rounds, tail, htrace, hrounds⟩ := play_loop hp ⟨ip, s.remotePort⟩ depth rfl
    (fun _ _ => Nat.zero_le _) hw
  simp only [← hlater, Nat.zero_add] at htrace hrounds
  rw [hrun]
  exact ⟨rounds, tail, congrArg (List.cons _) htrace, hrounds⟩

section ends
variable {remote : Endpoint} {rounds echoes now : Nat} {tail : List (Exchange interface)}
  {ending : Ending (Except Failure Nat)}

theorem Concluded.of_no_refusal (hend : Concluded s remote rounds echoes now tail ending)
    {R : UInt64} (hR : s.rounds = some R) (hmost : rounds ≤ R.toNat) (hcut : ending ≠ .unfinished)
    (hno : ∀ why, refusal s remote why ∉ tail.map Exchange.act) :
    ending = .returned (.ok echoes) ∧ rounds = R.toNat ∧ Counted (tail.map Exchange.act) 0 0 0 := by
  cases hend with
  | complete hc =>
    obtain ⟨R', hR', hle⟩ := complete_eq_true.mp hc
    obtain rfl : R = R' := Option.some.inj (hR.symm.trans hR')
    exact ⟨rfl, Nat.le_antisymm hmost hle, rfl, rfl, rfl⟩
  | refused why after hc => exact absurd (.head _) (hno why)
  | unfinished => exact absurd rfl hcut

private theorem Concluded.of_refusal (hend : Concluded s remote rounds echoes now tail ending)
    {before front back : List (Act interface)} {why : Fault} (hopen : Open s remote before)
    (hacts : before ++ tail.map Exchange.act = front ++ refusal s remote why :: back) :
    front = before ∧ ending = .returned (.error (.send why)) ∧ Counted (tail.map Exchange.act) 1 0 0 ∧
      ∀ R, s.rounds = some R → rounds < R.toNat := by
  have hmem : refusal s remote why ∈ before ++ tail.map Exchange.act :=
    hacts ▸ List.mem_append_right front (.head back)
  have htail : refusal s remote why ∈ tail.map Exchange.act :=
    (List.mem_append.mp hmem).resolve_left (hopen.refusal_not_mem why)
  cases hend with
  | complete hc => simp [Exchange.act, refusal] at htail
  | unfinished => cases htail
  | refused why' after hc =>
    have hlater : refusal s remote why ∉
        [⟨.note (.sendFailed remote why'), some ()⟩, ⟨.close, some ()⟩] := by simp [refusal]
    obtain ⟨rfl, hwhy, -⟩ :=
      (List.append_cons_inj_of_notMem (hopen.refusal_not_mem why) hlater).mp hacts
    obtain rfl : why' = why := by simpa [refusal, Exchange.act] using hwhy
    exact ⟨rfl, rfl, ⟨rfl, rfl, rfl⟩, complete_eq_false.mp hc⟩

private theorem Concluded.of_unlimited (hend : Concluded s remote rounds echoes now tail ending)
    (hR : s.rounds = none) {result : Except Failure Nat} (he : ending = .returned result) :
    ∃ why, refusal s remote why ∈ tail.map Exchange.act ∧ result = .error (.send why) := by
  cases hend with
  | complete hc =>
    obtain ⟨R, hR', -⟩ := complete_eq_true.mp hc
    cases hR.symm.trans hR'
  | refused why after hc =>
    cases he
    exact ⟨why, .head _, rfl⟩
  | unfinished => cases he

private theorem Concluded.close_last (hend : Concluded s remote rounds echoes now tail ending)
    {result : Except Failure Nat} (he : ending = .returned result) :
    ∃ front now, tail = front ++ [⟨.close, some (), now⟩] ∧ ∀ x ∈ front, x.request ≠ .close := by
  cases hend with
  | complete hc => exact ⟨[], now, rfl, List.forall_mem_nil _⟩
  | refused why after hc =>
    exact ⟨[⟨.send (probe s) remote, some (.error why), now⟩,
      ⟨.note (.sendFailed remote why), some (), after⟩], after, rfl, by simp⟩
  | unfinished => cases he

end ends

/-- A prober that is bound goes in rounds, each of them one interval after the receive of the one
before, whatever that gave. It returns after so many rounds as are wanted, or at the first send that
fails, and then has closed its socket, as its last call. -/
theorem runs_its_rounds_and_closes (hp : Punctual h) {ip : Ip}
    (hs : parseAddress s.remoteHost = .ok ip) (depth : Nat)
    (hb : (h.answer (.bind ⟨ip.unspecifiedLike, 0⟩) w).1 = some (.ok ()))
    (hw : (play h (run s depth) w).ending ≠ .waiting) :
    let run := play h (run s depth) w
    let remote : Endpoint := ⟨ip, s.remotePort⟩
    let start := h.moment (h.answer (.bind ⟨ip.unspecifiedLike, 0⟩) w).2
    (∃ rounds tail,
      run.trace = ⟨.bind ⟨ip.unspecifiedLike, 0⟩, some (.ok ()), h.moment w⟩ ::
        (roundsTrace s remote 1 start rounds ++ tail) ∧
      Concluded s remote rounds.length (rounds.countP (·.got.isOk)) (roundsEnd s start rounds) tail
        run.ending ∧
      (run.ending = .unfinished → rounds.length = depth)) ∧
    (∀ R, s.rounds = some R → R.toNat < depth → (∀ why, refusal s remote why ∉ run.acts) →
      run.ending = .returned (.ok (receives run.acts).length) ∧
        (receives run.acts).length ≤ R.toNat ∧ (sends run.acts).length = R.toNat ∧
        (hearings run.acts).length = R.toNat) ∧
    (∀ front why back, run.acts = front ++ refusal s remote why :: back →
      run.ending = .returned (.error (.send why)) ∧
        (sends run.acts).length = (sends front).length + 1 ∧
        (hearings run.acts).length = (sends front).length ∧
        ∀ R, s.rounds = some R → (sends front).length < R.toNat) ∧
    (s.rounds = none → ∀ result, run.ending = .returned result →
      ∃ why, refusal s remote why ∈ run.acts ∧ result = .error (.send why)) ∧
    ∀ result, run.ending = .returned result →
      ∃ front now, run.trace = front ++ [⟨.close, some (), now⟩] ∧ ∀ x ∈ front, x.request ≠ .close := by
  intro run remote start
  obtain ⟨rounds, tail, htrace, hend, hmost, hcut⟩ := play_bound hp hs depth hb hw
  have hbefore := htrace
  rw [← List.cons_append] at hbefore
  obtain ⟨hcounted, hopen⟩ :=
    counted_bound s ⟨ip.unspecifiedLike, 0⟩ remote (h.moment w) start rounds
  generalize _ :: roundsTrace s remote 1 start rounds = before at hbefore hcounted hopen
  have hacts : run.acts = before.map Exchange.act ++ tail.map Exchange.act := by
    rw [Run.acts, hbefore, List.map_append]
  refine ⟨⟨rounds, tail, htrace, hend, hcut⟩, ?_, ?_, ?_, ?_⟩
  · intro R hR hd hno
    have hunfinished : run.ending ≠ .unfinished := by
      intro hu
      have := hmost R hR
      rw [hcut hu] at this
      omega
    obtain ⟨he, hall, htail⟩ := hend.of_no_refusal hR (hmost R hR) hunfinished
      fun why hx => hno why (hacts ▸ List.mem_append_right _ hx)
    obtain ⟨hs, hh, hr⟩ := hcounted.append htail
    rw [hacts, he, hs, hh, hr, ← hall]
    exact ⟨rfl, List.countP_le_length, rfl, rfl⟩
  · intro front why back hx
    obtain ⟨rfl, he, htail, hless⟩ := hend.of_refusal hopen (hacts ▸ hx)
    obtain ⟨hs, hh, -⟩ := hcounted.append htail
    rw [hacts, hs, hh, hcounted.sends_length]
    exact ⟨he, rfl, rfl, hless⟩
  · intro hR result he
    obtain ⟨why, hx, hresult⟩ := hend.of_unlimited hR he
    exact ⟨why, hacts ▸ List.mem_append_right _ hx, hresult⟩
  · intro result he
    obtain ⟨front, after, rfl, hfront⟩ := hend.close_last he
    refine ⟨before ++ front, after, by rw [hbefore, List.append_assoc], ?_⟩
    intro x hx
    rcases List.mem_append.mp hx with hx | hx
    · exact hopen.close_not_mem x.act (List.mem_map_of_mem hx)
    · exact hfront x hx

def quarterly : Settings := { Settings.default with rounds := some 3, udpIntervalMs := 250 }

def quarterlyRemote : Endpoint := ⟨.v4 ⟨192, 168, 1, 102⟩, quarterly.remotePort⟩

/-- An answer after a while, none in time, and a receive that fails. -/
def patchy (sends : List (Script.Cue Script.Amount)) : Script.Datagrams where
  binds := []
  sends := sends
  receives := [⟨40, some (.ok (Text.utf8 "pong", quarterlyRemote))⟩, ⟨1000, some (.error .timedOut)⟩,
    .now (.error .closed)]

def patchyRun (sends : List (Script.Cue Script.Amount)) :
    Run interface Script.Datagrams (Except Failure Nat) :=
  play Script.Datagrams.handler (run quarterly 4) (patchy sends)

def secondRefused : List (Script.Cue Script.Amount) := [.now (.ok .full), .now (.error .closed)]

theorem runs_its_rounds_and_closes_patchy :
    Punctual Script.Datagrams.handler ∧
      parseAddress quarterly.remoteHost = .ok (.v4 ⟨192, 168, 1, 102⟩) ∧
      (patchyRun []).ending = .returned (.ok 1) ∧ (sends (patchyRun []).acts).length = 3 ∧
      (hearings (patchyRun []).acts).length = 3 ∧
      (patchyRun secondRefused).ending = .returned (.error (.send .closed)) ∧
      (sends (patchyRun secondRefused).acts).length = 2 ∧
      (hearings (patchyRun secondRefused).acts).length = 1 := by
  have hs : parseAddress quarterly.remoteHost = .ok (.v4 ⟨192, 168, 1, 102⟩) := rfl
  have hwhole : (patchyRun []).ending ≠ .waiting := by decide +kernel
  have hcut : (patchyRun secondRefused).ending ≠ .waiting := by decide +kernel
  have hnone : ∀ why, refusal quarterly quarterlyRemote why ∉ (patchyRun []).acts := by
    intro why hx
    have hgood : (patchyRun []).acts.all goesWell = true := by decide +kernel
    cases List.all_eq_true.mp hgood _ hx
  have hsecond : (patchyRun secondRefused).acts = (patchyRun secondRefused).acts.take 5 ++
      refusal quarterly quarterlyRemote .closed :: (patchyRun secondRefused).acts.drop 6 := by cbv
  have hbefore : (sends ((patchyRun secondRefused).acts.take 5)).length = 1 := by decide +kernel
  have hechoes : (receives (patchyRun []).acts).length = 1 := by decide +kernel
  have hd : UInt64.toNat 3 < 4 := by decide
  obtain ⟨-, hall, -⟩ := runs_its_rounds_and_closes punctual_script hs 4 (w := patchy []) rfl hwhole
  obtain ⟨-, -, hrefused, -⟩ :=
    runs_its_rounds_and_closes punctual_script hs 4 (w := patchy secondRefused) rfl hcut
  obtain ⟨he, -, hsends, hheard⟩ := hall 3 rfl hd hnone
  obtain ⟨he', hsends', hheard', -⟩ := hrefused _ _ _ hsecond
  change _ = Ending.returned (Except.ok (receives (patchyRun []).acts).length) at he
  rw [hechoes] at he
  rw [hbefore] at hsends' hheard'
  exact ⟨punctual_script, hs, he, hsends, hheard, he', hsends', hheard'⟩

/-- One round, with an interval longer than any wait. -/
def overlong : Settings := { Settings.default with rounds := some 1, udpIntervalMs := 946080000001 }

def overlongRun : Run interface Script.Datagrams (Except Failure Nat) :=
  play Script.Datagrams.handler (run overlong 2)
    { binds := [], sends := [], receives := [.now (.error .timedOut)] }

/-- After the longest wait, an interval may not be over yet. -/
theorem overlong_interval_cut_short :
    ¬∀ front e ended closed,
      overlongRun.trace = front ++ [⟨.note e, some (), ended⟩,
        ⟨.pause overlong.udpIntervalMs.toNat, some (), ended⟩, ⟨.close, some (), closed⟩] →
      closed = ended + overlong.udpIntervalMs.toNat := by
  intro hkept
  have hrun : overlongRun.trace = overlongRun.trace.take 3 ++ [⟨.note (.roundTimedOut 1), some (), 0⟩,
      ⟨.pause overlong.udpIntervalMs.toNat, some (), 0⟩, ⟨.close, some (), 946080000000⟩] := by cbv
  have hclosed := hkept _ _ _ _ hrun
  revert hclosed
  decide +kernel

end NetBench.Datagram.Prober
