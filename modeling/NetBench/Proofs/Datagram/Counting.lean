import NetBench.Proofs.Datagram.Splitting
import NetBench.Proofs.Talk.Traffic

/-! What the result of a prober counts: all datagrams that it receives, whoever sent them and
whatever they hold. It is the number of echoes if nothing else arrives. -/
namespace NetBench.Datagram.Prober
open Talk

variable {σ : Type} {h : Handler interface σ} {s : Settings} {w : σ}

/-- The same surroundings with a clock of their own, on which only pauses take time. -/
def clocked (h : Handler interface σ) : Handler interface (σ × Nat) where
  answer r w := ((h.answer r w.1).1, (h.answer r w.1).2, match r with
    | .pause n => w.2 + Clock.lasting n
    | _ => w.2)
  moment := Prod.snd

theorem punctual_clocked (h : Handler interface σ) : Punctual (clocked h) :=
  ⟨fun _ _ => rfl, fun _ _ => rfl⟩

theorem matches_clocked (h : Handler interface σ) :
    h.Matches (fun _ => true) Exchange.act (fun w (w' : σ × Nat) => w = w'.1) (clocked h) where
  answer {r w w'} _ hw := by
    subst hw
    exact ⟨rfl, rfl⟩
  view _ _ := rfl
  left hr := by cases hr
  right hr := by cases hr

/-- What a program does is no matter of when. -/
theorem play_clocked {α : Type} (t : Program α) (now : Nat) :
    (play (clocked h) t (w, now)).acts = (play h t w).acts ∧
      (play (clocked h) t (w, now)).ending = (play h t w).ending := by
  have hsame : w = (w, now).1 := rfl
  obtain ⟨hsights, hending, -⟩ := (Alike.refl (fun _ => rfl) t).play (matches_clocked h) hsame
  refine ⟨?_, hending⟩
  have hall (trace : List (Exchange interface)) :
      sights (fun _ => true) Exchange.act trace = trace.map Exchange.act := by
    rw [sights, List.filter_true]
  rw [hall, hall] at hsights
  exact hsights

/-- What comes back in a round if all goes well: the probe, cut to the buffer, from where it was
sent. -/
def echoOf (s : Settings) (remote : Endpoint) : List UInt8 × Endpoint :=
  ((probe s).take s.udpBufferSize.toNat, remote)

section
variable {ip : Ip} {R : UInt64} {depth : Nat}

private theorem result_of_punctual (hp : Punctual h) (hs : parseAddress s.remoteHost = .ok ip)
    (hR : s.rounds = some R) (hd : R.toNat < depth)
    (hb : (h.answer (.bind ⟨ip.unspecifiedLike, 0⟩) w).1 = some (.ok ()))
    (hw : (play h (run s depth) w).ending ≠ .waiting)
    (hno : ∀ why, refusal s ⟨ip, s.remotePort⟩ why ∉ (play h (run s depth) w).acts) :
    let run := play h (run s depth) w
    run.ending = .returned (.ok (receives run.acts).length) ∧
      (hearings run.acts).length = R.toNat := by
  intro run
  obtain ⟨rounds, tail, htrace, hend, hmost, hcut⟩ := play_bound hp hs depth hb hw
  rw [← List.cons_append] at htrace
  have hacts : run.acts = _ := (congrArg (List.map Exchange.act) htrace).trans List.map_append
  have hunfinished : run.ending ≠ .unfinished := by
    intro hu
    have := hmost R hR
    rw [hcut hu] at this
    omega
  obtain ⟨hcounted, -⟩ := counted_bound s ⟨ip.unspecifiedLike, 0⟩ ⟨ip, s.remotePort⟩ (h.moment w)
    (h.moment (h.answer (.bind ⟨ip.unspecifiedLike, 0⟩) w).2) rounds
  obtain ⟨he, hall, htail⟩ := hend.of_no_refusal hR (hmost R hR) hunfinished
    fun why hx => hno why (hacts ▸ List.mem_append_right _ hx)
  have hboth := hcounted.append htail
  rw [← hacts] at hboth
  rw [hboth.receives_length, hboth.hearings_length, ← hall]
  exact ⟨he, rfl⟩

/-- The result of a prober whose sends all go well is the number of datagrams that it received.
Those that are no echo of its probe count too, so it is the number of echoes only if there is none
such. -/
theorem counts_whatever_arrives (hs : parseAddress s.remoteHost = .ok ip) (hR : s.rounds = some R)
    (hd : R.toNat < depth) (hb : (h.answer (.bind ⟨ip.unspecifiedLike, 0⟩) w).1 = some (.ok ()))
    (hw : (play h (run s depth) w).ending ≠ .waiting)
    (hno : ∀ why, refusal s ⟨ip, s.remotePort⟩ why ∉ (play h (run s depth) w).acts) :
    let run := play h (run s depth) w
    let got := receives run.acts
    let echo := echoOf s ⟨ip, s.remotePort⟩
    run.ending = .returned (.ok got.length) ∧ (hearings run.acts).length = R.toNat ∧
      got.length = got.count echo + got.countP (· ≠ echo) ∧
      (got.length = got.count echo ↔ ∀ datagram ∈ got, datagram = echo) := by
  intro run got echo
  obtain ⟨hacts, hending⟩ := play_clocked (h := h) (w := w) (Prober.run s depth) 0
  rw [← hending] at hw
  rw [← hacts] at hno
  have hresult := result_of_punctual (punctual_clocked h) (w := (w, 0)) hs hR hd hb hw hno
  simp only [hacts, hending] at hresult
  refine ⟨hresult.1, hresult.2, ?_, ?_⟩
  · have hsplit := List.length_eq_countP_add_countP (l := got) (· == echo)
    simpa [List.count] using hsplit
  · rw [eq_comm, List.count_eq_length]
    exact forall₂_congr fun datagram _ => eq_comm

end

def strangerFirst : Run interface Script.Datagrams (Except Failure Nat) :=
  play Script.Datagrams.handler (run quarterly 4)
    { binds := [], sends := [], receives := [.now (.ok (Text.utf8 "junk", ⟨.v4 ⟨9, 9, 9, 9⟩, 9⟩)),
        .now (.ok (Text.utf8 "Hello!" ++ [0], quarterlyRemote)), .now (.error .timedOut)] }

theorem counts_whatever_arrives_strangerFirst :
    let got := receives strangerFirst.acts
    parseAddress quarterly.remoteHost = .ok (.v4 ⟨192, 168, 1, 102⟩) ∧
      strangerFirst.ending = .returned (.ok got.length) ∧
      (hearings strangerFirst.acts).length = 3 ∧ got.length = 2 ∧
      got.count (echoOf quarterly quarterlyRemote) = 1 := by
  intro got
  have hs : parseAddress quarterly.remoteHost = .ok (.v4 ⟨192, 168, 1, 102⟩) := rfl
  have hw : strangerFirst.ending ≠ .waiting := by decide +kernel
  have hno : ∀ why, refusal quarterly quarterlyRemote why ∉ strangerFirst.acts := by
    intro why hx
    have hgood : strangerFirst.acts.all goesWell = true := by decide +kernel
    cases List.all_eq_true.mp hgood _ hx
  have hR : quarterly.rounds = some 3 := rfl
  have hd : (3 : UInt64).toNat < 4 := by decide
  obtain ⟨hend, hheard, -⟩ :=
    counts_whatever_arrives (h := Script.Datagrams.handler) hs hR hd rfl hw hno
  exact ⟨hs, hend, hheard, by decide +kernel, by decide +kernel⟩

/-- What a stranger sends counts: the result is not the number of echoes, though nothing fails. -/
theorem stranger_counted :
    quarterly.rounds = some 3 ∧ strangerFirst.acts.all goesWell = true ∧
      strangerFirst.ending = .returned (.ok 2) ∧
      (receives strangerFirst.acts).count (echoOf quarterly quarterlyRemote) = 1 := by
  refine ⟨rfl, ?_, ?_, ?_⟩ <;> decide +kernel

end NetBench.Datagram.Prober
