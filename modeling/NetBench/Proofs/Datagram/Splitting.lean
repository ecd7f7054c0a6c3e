import Mathlib
import NetBench.Proofs.Datagram.Probing

/-! A run of a prober split in two. What a round does goes by its surroundings, and not by how many
rounds there were before it, so two probers one after the other do what one does that goes as many
rounds as both. Only the second bind may take time. -/
namespace NetBench.Datagram.Prober
open Talk
open Script (Datagrams)

/-- The round that scripts have in store, and what is left of them after it. There is none if its
send fails, or if one of its calls never completes. -/
def round? (s : Settings) (remote : Endpoint) (w : Datagrams) : Option (Round × Datagrams) :=
  let sent : Option (Except Fault Nat) × Datagrams :=
    Datagrams.handler.answer (.send (probe s) remote) w
  let heard : Option (Except Fault (List UInt8 × Endpoint)) × Datagrams :=
    Datagrams.handler.answer (.receive s.udpBufferSize.toNat (some s.udpTimeoutMs.toNat)) sent.2
  match sent.1, heard.1 with
  | some (.ok taken), some got => some (⟨taken, sent.2.now, got, heard.2.now⟩,
      (Datagrams.handler.answer (.pause s.udpIntervalMs.toNat) heard.2).2)
  | _, _ => none

def rounds? (s : Settings) (remote : Endpoint) : Nat → Datagrams → Option (List Round × Datagrams)
  | 0, w => some ([], w)
  | k + 1, w => do
    let (r, w) ← round? s remote w
    let (rounds, w) ← rounds? s remote k w
    return (r :: rounds, w)

variable {s : Settings} {remote : Endpoint} {w w' : Datagrams} {p : Progress} {r : Round}
  {rounds : List Round}

theorem rounds?_succ_eq_some_iff {k : Nat} :
    rounds? s remote (k + 1) w = some (rounds, w') ↔
      ∃ r between later, round? s remote w = some (r, between) ∧
        rounds? s remote k between = some (later, w') ∧ rounds = r :: later := by
  simp only [rounds?, Option.bind_eq_bind, Option.bind_eq_some_iff, Option.pure_def, Option.some.injEq,
    Prod.exists, Prod.mk.injEq]
  constructor
  · rintro ⟨r, between, hr, later, w'', hl, rfl, rfl⟩
    exact ⟨r, between, later, hr, hl, rfl⟩
  · rintro ⟨r, between, later, hr, hl, rfl⟩
    exact ⟨r, between, hr, later, w', hl, rfl, rfl⟩

/-- The rounds in store for a step are what it does. -/
theorem play_step_of_round? (hr : round? s remote w = some (r, w')) (hc : complete s p.round = false)
    (hb : p.buffer.size = s.udpBufferSize.toNat) :
    play Datagrams.handler (step s remote p) w =
      ⟨r.trace s remote (p.round + 1) w.now, .returned (.inl (p.begin.after r.got)), w'⟩ := by
  unfold round? at hr
  simp only at hr
  split at hr
  · rename_i taken got hs hg
    obtain ⟨rfl, rfl⟩ := Prod.mk.inj (Option.some.inj hr)
    rw [step_eq remote hc hb, play_ask_some hs, play_ask_some hg]
    rfl
  · cases hr

theorem now_of_round? (hr : round? s remote w = some (r, w')) : w'.now = r.next s := by
  unfold round? at hr
  simp only at hr
  split at hr
  · obtain ⟨rfl, rfl⟩ := Prod.mk.inj (Option.some.inj hr)
    rfl
  · cases hr

theorem now_of_rounds? {k : Nat} (hr : rounds? s remote k w = some (rounds, w')) :
    w'.now = roundsEnd s w.now rounds := by
  induction k generalizing w rounds with
  | zero =>
    obtain ⟨rfl, rfl⟩ := Prod.mk.inj (Option.some.inj hr)
    rfl
  | succ k ih =>
    obtain ⟨r, between, later, hfirst, hlater, rfl⟩ := rounds?_succ_eq_some_iff.mp hr
    rw [ih hlater, now_of_round? hfirst]
    rfl

private theorem not_complete {R : UInt64} (hR : s.rounds = some R) {n : Nat} (hn : n < R.toNat) :
    complete s n = false := by
  rw [complete, hR]
  exact decide_eq_false (Nat.not_le.mpr hn)

/-- Rounds in store, all that are left, are what the loop does before it closes. -/
theorem play_loop_of_rounds? {R : UInt64} (hR : s.rounds = some R) {k depth : Nat}
    (hk : p.round + k = R.toNat) (hd : k < depth) (hb : p.buffer.size = s.udpBufferSize.toNat)
    (hr : rounds? s remote k w = some (rounds, w')) :
    play Datagrams.handler (loop (step s remote) depth p) w =
      ⟨roundsTrace s remote (p.round + 1) w.now rounds ++ [⟨.close, some (), w'.now⟩],
        .returned (.ok (p.echoes + rounds.countP (·.got.isOk))), w'⟩ := by
  induction k generalizing p w rounds depth with
  | zero =>
    obtain ⟨depth, rfl⟩ : ∃ n, depth = n + 1 := ⟨depth - 1, by omega⟩
    obtain ⟨rfl, rfl⟩ := Prod.mk.inj (Option.some.inj hr)
    have hc : complete s p.round = true := complete_eq_true.mpr ⟨R, hR, by omega⟩
    have hclose : step s remote p = .ask .close fun _ => .done (.inr (.ok p.echoes)) := by
      rw [step, if_pos hc]
      rfl
    have he : (play Datagrams.handler (step s remote p) w).ending = .returned (.inr (.ok p.echoes)) := by
      rw [hclose]
      rfl
    rw [play_loop_inr he depth, hclose]
    rfl
  | succ k ih =>
    obtain ⟨depth, rfl⟩ : ∃ n, depth = n + 1 := ⟨depth - 1, by omega⟩
    obtain ⟨r, between, later, hfirst, hlater, rfl⟩ := rounds?_succ_eq_some_iff.mp hr
    have hc : complete s p.round = false := not_complete hR (by omega)
    have hstep := play_step_of_round? hfirst hc hb
    have he := congrArg Run.ending hstep
    have hk' : (p.begin.after r.got).round + k = R.toNat := by
      rw [round_after, round_begin]
      omega
    have hrest := ih hk' (Nat.lt_of_succ_lt_succ hd) (by rwa [size_after]) hlater
    simp only [round_after, echoes_after, round_begin, echoes_begin, now_of_round? hfirst] at hrest
    have hcount : p.echoes + (r :: later).countP (·.got.isOk) =
        p.echoes + (if r.got.isOk then 1 else 0) + later.countP (·.got.isOk) := by
      rw [List.countP_cons, Nat.add_assoc, Nat.add_comm (List.countP _ _)]
    rw [play_loop_inl he depth, hstep]
    simp only
    rw [hrest, hcount, roundsTrace, List.append_assoc]

section
variable {α β : Type} {t : Program α} {request : Request} {next : request.Answer → Program α}

/-- A run of acts that go well gets an answer to what it asks first, and goes on well. -/
theorem answered_of_goesWell
    (h : ∀ x ∈ (play Datagrams.handler (.ask request next) w).acts, goesWell x = true) :
    ∃ answer, (Datagrams.handler.answer request w).1 = some answer ∧
      goesWell ⟨request, some answer⟩ = true ∧
      ∀ x ∈ (play Datagrams.handler (next answer) (Datagrams.handler.answer request w).2).acts,
        goesWell x = true := by
  have hfirst := h _ (List.mem_of_head? (head?_acts_ask Datagrams.handler request next w))
  cases ha : (Datagrams.handler.answer request w).1 with
  | none =>
    rw [ha] at hfirst
    cases request <;> cases hfirst
  | some answer =>
    rw [ha] at hfirst
    refine ⟨answer, rfl, hfirst, ?_⟩
    intro x hx
    rw [play_ask_some ha] at h
    exact h x (.tail _ hx)

theorem goesWell_of_bind {f : α → Program β}
    (h : ∀ x ∈ (play Datagrams.handler (t >>= f) w).acts, goesWell x = true) :
    ∀ x ∈ (play Datagrams.handler t w).acts, goesWell x = true := by
  intro x hx
  apply h
  rw [play_bind]
  cases hr : play Datagrams.handler t w with
  | mk trace ending world =>
    rw [hr] at hx
    cases ending with
    | returned a =>
      simp only [Run.acts, List.map_append]
      exact List.mem_append_left _ hx
    | waiting | unfinished => exact hx

end

/-- A step that goes well has a round in store. -/
theorem exists_round? (hc : complete s p.round = false) (hb : p.buffer.size = s.udpBufferSize.toNat)
    (h : ∀ x ∈ (play Datagrams.handler (step s remote p) w).acts, goesWell x = true) :
    ∃ r w', round? s remote w = some (r, w') := by
  rw [step_eq remote hc hb] at h
  obtain ⟨sent, hsent, hwell, h⟩ := answered_of_goesWell h
  change Except Fault Nat at sent
  cases sent with
  | error why => cases hwell
  | ok taken =>
    obtain ⟨got, hgot, -, -⟩ := answered_of_goesWell h
    simp only [round?, hsent, hgot]
    exact ⟨_, _, rfl⟩

/-- A loop that goes well has in store all rounds that are left. -/
theorem exists_rounds? {R : UInt64} (hR : s.rounds = some R) {k depth : Nat}
    (hk : p.round + k = R.toNat) (hd : k < depth) (hb : p.buffer.size = s.udpBufferSize.toNat)
    (h : ∀ x ∈ (play Datagrams.handler (loop (step s remote) depth p) w).acts, goesWell x = true) :
    ∃ rounds w', rounds? s remote k w = some (rounds, w') := by
  induction k generalizing p w depth with
  | zero => exact ⟨[], w, rfl⟩
  | succ k ih =>
    obtain ⟨depth, rfl⟩ : ∃ n, depth = n + 1 := ⟨depth - 1, by omega⟩
    have hc : complete s p.round = false := not_complete hR (by omega)
    obtain ⟨r, between, hr⟩ := exists_round? hc hb (goesWell_of_bind h)
    have hstep := play_step_of_round? hr hc hb
    rw [play_loop_inl (congrArg Run.ending hstep) depth, hstep] at h
    have hk' : (p.begin.after r.got).round + k = R.toNat := by
      rw [round_after, round_begin]
      omega
    have hlater : ∀ x ∈ (play Datagrams.handler (loop (step s remote) depth (p.begin.after r.got))
        between).acts, goesWell x = true := by
      intro x hx
      apply h
      rw [Run.acts, List.map_append]
      exact List.mem_append_right _ hx
    obtain ⟨later, w', hl⟩ := ih hk' (Nat.lt_of_succ_lt_succ hd) (by rwa [size_after]) hlater
    exact ⟨r :: later, w', rounds?_succ_eq_some_iff.mpr ⟨r, between, later, hr, hl, rfl⟩⟩

private theorem round?_wanting (wanted : Option UInt64) :
    round? { s with rounds := wanted } remote w = round? s remote w := rfl

private theorem rounds?_wanting (wanted : Option UInt64) (k : Nat) :
    rounds? { s with rounds := wanted } remote k w = rounds? s remote k w := by
  induction k generalizing w with
  | zero => rfl
  | succ k ih =>
    simp only [rounds?, round?_wanting, ih]

private theorem roundsTrace_wanting (wanted : Option UInt64) (number start : Nat)
    (rounds : List Round) :
    roundsTrace { s with rounds := wanted } remote number start rounds =
      roundsTrace s remote number start rounds := by
  induction rounds generalizing number start with
  | nil => rfl
  | cons r rounds ih => exact congrArg (r.trace s remote number start ++ ·) (ih (number + 1) (r.next s))

/-- A prober of so many rounds, whatever the settings say of their number. -/
def runOf (s : Settings) (depth : Nat) (R : UInt64) (w : Datagrams) :
    Run interface Datagrams (Except Failure Nat) :=
  play Datagrams.handler (run { s with rounds := some R } depth) w

section
variable {ip : Ip} {R : UInt64} {depth : Nat}

private theorem runOf_eq (hs : parseAddress s.remoteHost = .ok ip) (R : UInt64) (depth : Nat)
    (w : Datagrams) :
    runOf s depth R w = play Datagrams.handler (runTo { s with rounds := some R } ip depth) w := by
  simp only [runOf, run, hs]

/-- A run that goes well binds, and has all its rounds in store then. -/
theorem exists_rounds?_of_runOf (hs : parseAddress s.remoteHost = .ok ip) (hd : R.toNat < depth)
    (h : ∀ x ∈ (runOf s depth R w).acts, goesWell x = true) :
    let bound := Datagrams.handler.answer (.bind ⟨ip.unspecifiedLike, 0⟩) w
    bound.1 = some (.ok ()) ∧
      ∃ rounds w', rounds? s ⟨ip, s.remotePort⟩ R.toNat bound.2 = some (rounds, w') := by
  intro bound
  rw [runOf_eq hs] at h
  obtain ⟨made, hmade, hwell, h⟩ := answered_of_goesWell h
  change Except Fault Unit at made
  cases made with
  | error why => cases hwell
  | ok _ =>
    have hrounds := exists_rounds? rfl (Nat.zero_add _) hd rfl h
    simp only [rounds?_wanting] at hrounds
    exact ⟨hmade, hrounds⟩

/-- A run whose rounds are in store once it is bound. -/
theorem runOf_of_rounds? (hs : parseAddress s.remoteHost = .ok ip) (hd : R.toNat < depth)
    (hb : (Datagrams.handler.answer (.bind ⟨ip.unspecifiedLike, 0⟩) w).1 = some (.ok ()))
    (hr : rounds? s ⟨ip, s.remotePort⟩ R.toNat
      (Datagrams.handler.answer (.bind ⟨ip.unspecifiedLike, 0⟩) w).2 = some (rounds, w')) :
    let start := (Datagrams.handler.answer (.bind ⟨ip.unspecifiedLike, 0⟩) w).2.now
    runOf s depth R w =
      ⟨⟨.bind ⟨ip.unspecifiedLike, 0⟩, some (.ok ()), w.now⟩ ::
          (roundsTrace s ⟨ip, s.remotePort⟩ 1 start rounds ++ [⟨.close, some (), w'.now⟩]),
        .returned (.ok (rounds.countP (·.got.isOk))), w'⟩ := by
  intro start
  rw [← rounds?_wanting (some R)] at hr
  have hloop := play_loop_of_rounds? (s := { s with rounds := some R })
    (p := ⟨0, 0, .blank s.udpBufferSize.toNat⟩) rfl (Nat.zero_add _) hd rfl hr
  simp only [Nat.zero_add, roundsTrace_wanting] at hloop
  have hrun : play Datagrams.handler (runTo { s with rounds := some R } ip depth) w = _ :=
    play_ask_some hb _
  rw [runOf_eq hs, hrun]
  exact congrArg (fun later => Run.mk (_ :: later.trace) later.ending later.world) hloop

end

def Round.later (ms : Nat) (r : Round) : Round := { r with asked := r.asked + ms, ended := r.ended + ms }

/-- The same scripts for sending and receiving, so much later, with those of binds as they come. -/
def later (binds : List (Script.Cue Unit)) (ms : Nat) (w : Datagrams) : Datagrams :=
  { w with binds, now := w.now + ms }

theorem answer_later (binds : List (Script.Cue Unit)) (ms : Nat) (request : Request)
    (h : ∀ address, request ≠ .bind address) :
    Datagrams.handler.answer request (later binds ms w) =
      ((Datagrams.handler.answer request w).1, later binds ms (Datagrams.handler.answer request w).2) := by
  cases request with
  | bind address => exact absurd rfl (h address)
  | send | receive | pause =>
    simp only [Datagrams.handler, Datagrams.answer, later, Nat.add_right_comm w.now ms]
  | close | note => rfl

def bindTime (w : Datagrams) : Nat := (Script.next (.now (.ok ())) w.binds).1.lasting

theorem answer_bind (address : Endpoint) (w : Datagrams) :
    (Datagrams.handler.answer (.bind address) w).2 =
      later (Script.next (.now (.ok ())) w.binds).2 (bindTime w) w := rfl

/-- What is in store later is the same, later. -/
theorem round?_later (binds : List (Script.Cue Unit)) (ms : Nat) :
    round? s remote (later binds ms w) =
      (round? s remote w).map fun (r, w') => (r.later ms, later binds ms w') := by
  have hsend := answer_later (w := w) binds ms (.send (probe s) remote) nofun
  have hreceive (w : Datagrams) := answer_later (w := w) binds ms
    (.receive s.udpBufferSize.toNat (some s.udpTimeoutMs.toNat)) nofun
  have hpause (w : Datagrams) := answer_later (w := w) binds ms
    (.pause s.udpIntervalMs.toNat) nofun
  simp only [round?, hsend, hreceive, hpause]
  rcases Datagrams.handler.answer (.send (probe s) remote) w with ⟨sent?, sent⟩
  change Option (Except Fault Nat) at sent?
  rcases sent? with _ | (why | taken)
  · rfl
  · rfl
  · rcases Datagrams.handler.answer
      (.receive s.udpBufferSize.toNat (some s.udpTimeoutMs.toNat)) sent with ⟨_ | got, heard⟩ <;> rfl

theorem rounds?_later (binds : List (Script.Cue Unit)) (ms k : Nat) :
    rounds? s remote k (later binds ms w) =
      (rounds? s remote k w).map fun (rounds, w') => (rounds.map (Round.later ms), later binds ms w') := by
  induction k generalizing w with
  | zero => rfl
  | succ k ih =>
    rw [rounds?, rounds?, round?_later]
    cases round? s remote w with
    | none => rfl
    | some out =>
      simp only [Option.map_some, Option.bind_eq_bind, Option.bind_some, ih]
      cases rounds? s remote k out.2 <;> rfl

/-- The rounds in store are those of a first part, and those in store after it. -/
theorem rounds?_add {front back : List Round} {between : Datagrams} {k l : Nat}
    (hf : rounds? s remote k w = some (front, between))
    (hb : rounds? s remote l between = some (back, w')) :
    rounds? s remote (k + l) w = some (front ++ back, w') := by
  induction k generalizing w front with
  | zero =>
    obtain ⟨rfl, rfl⟩ := Prod.mk.inj (Option.some.inj hf)
    rw [Nat.zero_add]
    exact hb
  | succ k ih =>
    obtain ⟨r, next, later, hr, hl, rfl⟩ := rounds?_succ_eq_some_iff.mp hf
    rw [Nat.succ_add]
    exact rounds?_succ_eq_some_iff.mpr ⟨r, next, later ++ back, hr, ih hl, rfl⟩

/-- The sends and receives of a record. -/
def dealings (trace : List (Exchange interface)) : List (Exchange interface) :=
  trace.filter fun x => match x.request with
    | .send _ _ | .receive _ _ => true
    | _ => false

def delayed (ms : Nat) (x : Exchange interface) : Exchange interface := { x with moment := x.moment + ms }

private theorem dealings_roundsTrace_number (number number' start : Nat) (rounds : List Round) :
    dealings (roundsTrace s remote number start rounds) =
      dealings (roundsTrace s remote number' start rounds) := by
  induction rounds generalizing number number' start with
  | nil => rfl
  | cons r rounds ih => exact congrArg (_ :: _ :: ·) (ih (number + 1) (number' + 1) (r.next s))

private theorem dealings_roundsTrace_append (number number' start : Nat) (front back : List Round) :
    dealings (roundsTrace s remote number start (front ++ back)) =
      dealings (roundsTrace s remote number start front) ++
        dealings (roundsTrace s remote number' (roundsEnd s start front) back) := by
  induction front generalizing number start with
  | nil => exact dealings_roundsTrace_number number number' start back
  | cons r front ih => exact congrArg (_ :: _ :: ·) (ih (number + 1) (r.next s))

private theorem dealings_roundsTrace_later (number start ms : Nat) (rounds : List Round) :
    dealings (roundsTrace s remote number (start + ms) (rounds.map (Round.later ms))) =
      (dealings (roundsTrace s remote number start rounds)).map (delayed ms) := by
  induction rounds generalizing number start with
  | nil => rfl
  | cons r rounds ih =>
    have hnext : (r.later ms).next s = r.next s + ms := Nat.add_right_comm r.ended ms _
    have hrest := ih (number + 1) (r.next s)
    rw [← hnext] at hrest
    exact congrArg (_ :: _ :: ·) hrest

private theorem dealings_around (address : Endpoint) (answer : Option (Except Fault Unit))
    (start now : Nat) (trace : List (Exchange interface)) :
    dealings (⟨.bind address, answer, start⟩ :: (trace ++ [⟨.close, some (), now⟩])) = dealings trace := by
  simp [dealings]

/-- Two probers one after the other, in which every act goes well, send and receive what one prober
does that goes as many rounds as both, and get as many answers. The second is late by what its bind
takes. -/
theorem rounds_add_up (s : Settings) {ip : Ip} (hs : parseAddress s.remoteHost = .ok ip)
    {R₁ R₂ : UInt64} (hR : R₁.toNat + R₂.toNat < 2 ^ 64) {depth : Nat}
    (hd : R₁.toNat + R₂.toNat < depth) (w : Datagrams) :
    let first := runOf s depth R₁ w
    let second := runOf s depth R₂ first.world
    let whole := runOf s depth (R₁ + R₂) w
    let late := bindTime first.world
    (∀ x ∈ first.acts ++ second.acts, goesWell x = true) →
    ∃ n₁ n₂ rest, first.ending = .returned (.ok n₁) ∧ second.ending = .returned (.ok n₂) ∧
      whole.ending = .returned (.ok (n₁ + n₂)) ∧
      dealings whole.trace = dealings first.trace ++ rest ∧
      dealings second.trace = rest.map (delayed late) ∧ second.world.now = whole.world.now + late ∧
      (late = 0 → dealings whole.trace = dealings first.trace ++ dealings second.trace ∧
        second.world.now = whole.world.now) := by
  intro first second whole late hwell
  have hsum : (R₁ + R₂).toNat = R₁.toNat + R₂.toNat := by
    rw [UInt64.toNat_add, Nat.mod_eq_of_lt hR]
  obtain ⟨hb₁, front, w₁, hfront⟩ := exists_rounds?_of_runOf hs (by omega)
    fun x hx => hwell x (List.mem_append_left _ hx)
  have hfirst : first = _ := runOf_of_rounds? hs (by omega) hb₁ hfront
  obtain ⟨hb₂, back', w₂', hback'⟩ := exists_rounds?_of_runOf hs (by omega)
    fun x hx => hwell x (List.mem_append_right _ hx)
  have hsecond : second = _ := runOf_of_rounds? hs (by omega) hb₂ hback'
  obtain rfl : first.world = w₁ := congrArg Run.world hfirst
  -- The second prober starts where the first left off, only so much later.
  rw [answer_bind, rounds?_later, Option.map_eq_some_iff] at hback'
  obtain ⟨⟨back, w₂⟩, hback, hshift⟩ := hback'
  obtain ⟨rfl, rfl⟩ := Prod.mk.inj hshift
  have hboth := rounds?_add hfront hback
  rw [← hsum] at hboth
  have hwhole : whole = _ := runOf_of_rounds? hs (hsum ▸ hd) hb₁ hboth
  let start := (Datagrams.handler.answer (.bind ⟨ip.unspecifiedLike, 0⟩) w).2.now
  let rest := dealings (roundsTrace s ⟨ip, s.remotePort⟩ 1 first.world.now back)
  have hdealt : dealings first.trace = dealings (roundsTrace s ⟨ip, s.remotePort⟩ 1 start front) :=
    (congrArg (fun run => dealings run.trace) hfirst).trans (dealings_around ..)
  have hrest : dealings second.trace = rest.map (delayed late) :=
    (congrArg (fun run => dealings run.trace) hsecond).trans
      ((dealings_around ..).trans (dealings_roundsTrace_later ..))
  have hall : dealings whole.trace = dealings first.trace ++ rest := by
    have hsplit : dealings (roundsTrace s ⟨ip, s.remotePort⟩ 1 start (front ++ back)) = _ :=
      dealings_roundsTrace_append 1 1 start front back
    rw [← now_of_rounds? hfront, ← hdealt] at hsplit
    exact ((congrArg (fun run => dealings run.trace) hwhole).trans (dealings_around ..)).trans hsplit
  have hend : second.world.now = whole.world.now + late := by
    rw [congrArg Run.world hsecond, congrArg Run.world hwhole]
    rfl
  refine ⟨_, _, rest, congrArg Run.ending hfirst, congrArg Run.ending hsecond, ?_, hall, hrest, hend, ?_⟩
  · rw [congrArg Run.ending hwhole, List.countP_append, List.countP_map]
    rfl
  · intro hlate
    rw [hall, hrest, hend, hlate, show delayed 0 = id from rfl, List.map_id]
    exact ⟨rfl, rfl⟩

/-- One round after the other without an answer, where the second bind takes ten milliseconds. -/
def slowToBind : Datagrams where
  binds := [.now (.ok ()), ⟨10, some (.ok ())⟩]
  sends := []
  receives := [⟨1000, some (.error .timedOut)⟩, ⟨40, some (.ok (Text.utf8 "pong", quarterlyRemote))⟩]

theorem rounds_add_up_slowToBind :
    let first := runOf quarterly 3 1 slowToBind
    let second := runOf quarterly 3 1 first.world
    let whole := runOf quarterly 3 (1 + 1) slowToBind
    parseAddress quarterly.remoteHost = .ok (.v4 ⟨192, 168, 1, 102⟩) ∧
      (∀ x ∈ first.acts ++ second.acts, goesWell x = true) ∧ whole.ending = .returned (.ok 1) ∧
      second.world.now = whole.world.now + 10 := by
  intro first second whole
  have hs : parseAddress quarterly.remoteHost = .ok (.v4 ⟨192, 168, 1, 102⟩) := rfl
  have hR : (1 : UInt64).toNat + (1 : UInt64).toNat < 2 ^ 64 := by decide
  have hd : (1 : UInt64).toNat + (1 : UInt64).toNat < 3 := by decide
  have hwell : ∀ x ∈ first.acts ++ second.acts, goesWell x = true :=
    List.all_eq_true.mp (by decide +kernel)
  obtain ⟨n₁, n₂, rest, hfirst, hsecond, hwhole, -, -, hend, -⟩ :=
    rounds_add_up quarterly hs hR hd slowToBind hwell
  have h₁ : first.ending = .returned (.ok 0) := by decide +kernel
  have h₂ : second.ending = .returned (.ok 1) := by decide +kernel
  obtain rfl : n₁ = 0 := by simpa using hfirst.symm.trans h₁
  obtain rfl : n₂ = 1 := by simpa using hsecond.symm.trans h₂
  exact ⟨hs, hwell, hwhole, hend⟩

/-- What comes after a bind that takes time is later than in one run. -/
theorem slow_bind_delays :
    let first := runOf quarterly 3 1 slowToBind
    let second := runOf quarterly 3 1 first.world
    let whole := runOf quarterly 3 (1 + 1) slowToBind
    (∀ x ∈ first.acts ++ second.acts, goesWell x = true) ∧
      dealings whole.trace ≠ dealings first.trace ++ dealings second.trace ∧
      second.world.now ≠ whole.world.now := by
  intro first second whole
  have hwell : ∀ x ∈ first.acts ++ second.acts, goesWell x = true :=
    List.all_eq_true.mp (by decide +kernel)
  refine ⟨hwell, ?_, by decide +kernel⟩
  intro hsame
  have hmoments := congrArg (List.map Exchange.moment) hsame
  revert hmoments
  decide +kernel

end NetBench.Datagram.Prober
