import Mathlib
import NetBench.Datagram.Reflector
import NetBench.Proofs.Datagram.Acts
import NetBench.Proofs.Datagram.Network
import NetBench.Settings.File

/-! The calls of a reflector. They go by what it receives: every datagram is sent back as it came,
before the next is waited for, and what becomes of the replies does not matter. -/
namespace NetBench.Datagram.Reflector
open Talk

/-- What a reflector calls for one receive, by what it gave. -/
def requests (s : Settings) : Option (Except Fault (List UInt8 × Endpoint)) → List Request
  | some (.ok (data, peer)) => [.receive s.udpBufferSize.toNat none, .send data peer]
  | _ => [.receive s.udpBufferSize.toNat none]

/-- A record of receives that fit into the buffer, and of the replies to them. -/
structure Answering (s : Settings) (acts : List (Act interface)) : Prop where
  calls_eq : (calls acts).map Sigma.fst = (hearings acts).flatMap (requests s)
  sends_eq : sends acts = receives acts
  fits : ∀ got ∈ receives acts, got.1.length ≤ s.udpBufferSize.toNat

variable {σ : Type} {s : Settings} {buffer : Buffer} {depth : Nat} {acts : List (Act interface)}

private theorem Answering.append {front back : List (Act interface)} (hf : Answering s front)
    (hb : Answering s back) : Answering s (front ++ back) := by
  have hcalls := hf.calls_eq
  have hcalls' := hb.calls_eq
  have hsends := hf.sends_eq
  have hsends' := hb.sends_eq
  simp only [calls, hearings, sends, receives] at hcalls hcalls' hsends hsends'
  constructor
  · simp [calls, hearings, hcalls, hcalls']
  · simp [sends, receives, hsends, hsends']
  · intro got hg
    rw [receives, List.filterMap_append, List.mem_append] at hg
    exact hg.elim (hf.fits got) (hb.fits got)

private abbrev Allowed (x : Act interface) : Prop := Prompt x ∧ Fits x

private theorem records_remark (peer : Endpoint) {sent : Except Fault Nat} {ending : Ending Buffer}
    (h : Records Allowed (match sent with
      | .ok _ => .done buffer
      | .error why => note (.replyFailed peer why) >>= fun _ => .done buffer) acts ending) :
    Answering s acts ∧ hearings acts = [] ∧ ending = .returned buffer := by
  cases sent with
  | ok _ =>
    obtain ⟨rfl, he⟩ := records_done_iff.mp h
    exact ⟨⟨rfl, rfl, nofun⟩, rfl, he⟩
  | error why =>
    obtain ⟨_, _, -, rfl, hd⟩ := records_answered (fun hp => hp.1 rfl rfl) h
    obtain ⟨rfl, he⟩ := records_done_iff.mp hd
    exact ⟨⟨rfl, rfl, nofun⟩, rfl, he⟩

private theorem records_serveOne (hb : buffer.size = s.udpBufferSize.toNat) {ending : Ending Buffer}
    (h : Records Allowed (serveOne s buffer) acts ending) :
    Answering s acts ∧ (ending = .waiting ∨ ((hearings acts).length = 1 ∧
      ∃ after, after.size = s.udpBufferSize.toNat ∧ ending = .returned after)) := by
  rcases records_ask h with ⟨-, rfl, rfl⟩ | ⟨got, _, hgot, rfl, hr⟩
  · exact ⟨⟨rfl, rfl, nofun⟩, .inl rfl⟩
  change Except Fault (List UInt8 × Endpoint) at got
  match got with
  | .error why =>
    obtain ⟨_, _, -, rfl, hd⟩ := records_answered (fun hp => hp.1 rfl rfl) hr
    obtain ⟨rfl, rfl⟩ := records_done_iff.mp hd
    exact ⟨⟨rfl, rfl, nofun⟩, .inr ⟨rfl, buffer, hb, rfl⟩⟩
  | .ok (data, peer) =>
    have hfits : data.length ≤ s.udpBufferSize.toNat := hgot.2
    have hgot : ∀ got ∈ [(data, peer)], got.1.length ≤ s.udpBufferSize.toNat :=
      List.forall_mem_singleton.mpr hfits
    have hfront : (buffer.store data).front data.length = data := Buffer.front_store (hb ▸ hfits)
    obtain ⟨_, _, -, rfl, hs⟩ := records_answered (fun hp => hp.1 rfl rfl) hr
    rw [hfront] at hs
    rcases records_ask hs with ⟨-, rfl, rfl⟩ | ⟨sent, rest, -, rfl, hd⟩
    · exact ⟨⟨rfl, rfl, hgot⟩, .inl rfl⟩
    · obtain ⟨hrest, hnone, rfl⟩ := records_remark peer hd
      have hturn : Answering s [⟨.receive s.udpBufferSize.toNat none, some (.ok (data, peer))⟩,
          ⟨.note (.received peer data.length), some ()⟩, ⟨.send data peer, some sent⟩] :=
        ⟨rfl, rfl, hgot⟩
      refine ⟨hturn.append hrest, .inr ⟨?_, buffer.store data, hb, rfl⟩⟩
      exact congrArg (fun later => (some (.ok (data, peer)) :: later).length) hnone

private theorem records_serve (hb : buffer.size = s.udpBufferSize.toNat) {ending : Ending Failure}
    (h : Records Allowed (loop (fun buffer => do return .inl (← serveOne s buffer)) depth buffer) acts
      ending) :
    Answering s acts ∧
      (ending = .waiting ∨ (ending = .unfinished ∧ (hearings acts).length = depth)) := by
  induction depth generalizing buffer acts with
  | zero =>
    obtain ⟨rfl, rfl⟩ := records_rest_iff.mp h
    exact ⟨⟨rfl, rfl, nofun⟩, .inr ⟨rfl, rfl⟩⟩
  | succ depth ih =>
    rcases records_loop h with ⟨after, front, back, rfl, hf, hl⟩ | hlast
    · rcases records_bind hf with ⟨next, first, last, rfl, ht, hd⟩ | ⟨_, he⟩ | ⟨_, he⟩
      · obtain ⟨rfl, he⟩ := records_done_iff.mp hd
        obtain rfl : after = next := by simpa using he
        obtain ⟨hfirst, he | ⟨hlen, _, hafter, he⟩⟩ := records_serveOne hb ht
        · cases he
        · cases he
          obtain ⟨hback, hend⟩ := ih hafter hl
          rw [List.append_nil]
          refine ⟨hfirst.append hback, hend.imp_right ?_⟩
          rintro ⟨he, hmore⟩
          refine ⟨he, ?_⟩
          rw [hearings, List.filterMap_append, List.length_append, ← hearings, ← hearings, hlen, hmore,
            Nat.add_comm]
      · cases he
      · cases he
    · rcases records_bind hlast with ⟨next, first, last, rfl, ht, hd⟩ | ⟨hw, he⟩ | ⟨hu, he⟩
      · obtain ⟨-, he⟩ := records_done_iff.mp hd
        simp at he
      · obtain ⟨hacts, -⟩ := records_serveOne hb hw
        exact ⟨hacts, .inl (Ending.map_eq_waiting.mp he)⟩
      · obtain ⟨-, he | ⟨-, _, -, he⟩⟩ := records_serveOne hb hu
        · cases he
        · cases he

private theorem records_run {ip : Ip} {ending : Ending Failure}
    (hs : parseAddress s.listenHost = .ok ip) (h : Records Allowed (run s depth) acts ending) :
    ∃ answer after, acts = ⟨.bind ⟨ip, s.listenPort⟩, answer⟩ :: after ∧ Answering s after ∧
      (answer = some (.ok ()) → ending = .waiting ∨
        (ending = .unfinished ∧ (hearings after).length = depth)) := by
  have hrun : run s depth = runAt s ⟨ip, s.listenPort⟩ depth := by simp only [run, hs]
  rw [hrun] at h
  rcases records_ask h with ⟨-, rfl, rfl⟩ | ⟨result, _, -, rfl, hr⟩
  · exact ⟨none, [], rfl, ⟨rfl, rfl, nofun⟩, nofun⟩
  change Except Fault Unit at result
  cases result with
  | error why =>
    obtain ⟨_, _, -, rfl, hd⟩ := records_answered (fun hp => hp.1 rfl rfl) hr
    obtain ⟨rfl, rfl⟩ := records_done_iff.mp hd
    exact ⟨_, _, rfl, ⟨rfl, rfl, nofun⟩, nofun⟩
  | ok _ =>
    obtain ⟨_, served, -, rfl, hl⟩ := records_answered (fun hp => hp.1 rfl rfl) hr
    obtain ⟨hserved, hend⟩ := records_serve rfl hl
    have hopen : Answering s [⟨.note (.echoListening ⟨ip, s.listenPort⟩), some ()⟩] := ⟨rfl, rfl, nofun⟩
    exact ⟨_, _, rfl, hopen.append hserved, fun _ => hend⟩

private theorem calls_run {ip : Ip} {ending : Ending Failure}
    (hs : parseAddress s.listenHost = .ok ip) (h : Records Allowed (run s depth) acts ending) :
    (calls acts).map Sigma.fst =
      .bind ⟨ip, s.listenPort⟩ :: (hearings acts).flatMap (requests s) := by
  obtain ⟨answer, after, rfl, hafter, -⟩ := records_run hs h
  exact congrArg (Request.bind ⟨ip, s.listenPort⟩ :: ·) hafter.calls_eq

private theorem close_not_mem {ip : Ip}
    (hc : (calls acts).map Sigma.fst =
      .bind ⟨ip, s.listenPort⟩ :: (hearings acts).flatMap (requests s)) :
    ∀ x ∈ acts, x.1 ≠ .close := by
  intro x hx hclose
  have hcall : x.1.isCall = true := by rw [hclose]; rfl
  have hmem : x.1 ∈ (calls acts).map Sigma.fst :=
    List.mem_map_of_mem (List.mem_filter.mpr ⟨hx, hcall⟩)
  rw [hc, hclose] at hmem
  rcases List.mem_cons.mp hmem with hbind | hserved
  · cases hbind
  · obtain ⟨got, -, hr⟩ := List.mem_flatMap.mp hserved
    unfold requests at hr
    split at hr <;> simp at hr

/-- What a reflector that is bound sends is what it receives, to whom it receives it from. It goes
on for ever, and its calls depend on nothing else. -/
theorem reflects_what_it_receives {h : Handler interface σ} (hp : h.Within Prompt)
    (hf : h.Within Fits) {ip : Ip} (hs : parseAddress s.listenHost = .ok ip) (depth : Nat) {w : σ}
    (hb : (h.answer (.bind ⟨ip, s.listenPort⟩) w).1 = some (.ok ())) :
    let run := play h (run s depth) w
    (∀ failure, run.ending ≠ .returned failure) ∧
      (run.ending = .unfinished → (hearings run.acts).length = depth) ∧
      (calls run.acts).map Sigma.fst =
        .bind ⟨ip, s.listenPort⟩ :: (hearings run.acts).flatMap (requests s) ∧
      sends run.acts = receives run.acts ∧
      (∀ sent ∈ sends run.acts, sent.1.length ≤ s.udpBufferSize.toNat) ∧
      (∀ x ∈ run.acts, x.1 ≠ .close) ∧
      ∀ {τ : Type} {h' : Handler interface τ}, h'.Within Prompt → h'.Within Fits →
        ∀ (more : Nat) (w' : τ), let other := play h' (Reflector.run s more) w'
        hearings other.acts = hearings run.acts →
          (calls other.acts).map Sigma.fst = (calls run.acts).map Sigma.fst := by
  intro run
  have hr : Records Allowed (Reflector.run s depth) run.acts run.ending :=
    records_play (fun r w => ⟨hp r w, hf r w⟩) _ w
  have hcalls := calls_run hs hr
  obtain ⟨answer, after, hacts, hafter, hend⟩ := records_run hs hr
  have hbound : answer = some (.ok ()) := by
    have hrun : Reflector.run s depth = runAt s ⟨ip, s.listenPort⟩ depth := by
      simp only [Reflector.run, hs]
    have hfirst : run.acts.head? = some ⟨.bind ⟨ip, s.listenPort⟩, some (.ok ())⟩ := by
      simp only [run, hrun, ← hb]
      exact head?_acts_ask h _ _ w
    rw [hacts] at hfirst
    simpa using hfirst
  have hsends : sends run.acts = receives run.acts := by
    rw [hacts]
    exact hafter.sends_eq
  refine ⟨?_, ?_, hcalls, hsends, ?_, close_not_mem hcalls, ?_⟩
  · intro failure he
    rcases hend hbound with hw | ⟨hu, -⟩
    · cases he.symm.trans hw
    · cases he.symm.trans hu
  · intro hu
    rcases hend hbound with hw | ⟨-, hlen⟩
    · cases hu.symm.trans hw
    · rw [hacts]
      exact hlen
  · rw [hsends, hacts]
    exact hafter.fits
  · intro τ h' hp' hf' more w' other hheard
    have ho : Records Allowed (Reflector.run s more) other.acts other.ending :=
      records_play (fun r w => ⟨hp' r w, hf' r w⟩) _ w'
    rw [calls_run hs ho, hheard, hcalls]

/-- Datagrams of changing length, an empty one among them, with a receive that fails between them. -/
def shrinking (sends : List (Script.Cue Script.Amount)) : Script.Datagrams where
  binds := []
  sends := sends
  receives := [.now (.ok (Text.utf8 "hello", ⟨.v4 ⟨10, 0, 0, 2⟩, 4000⟩)), .now (.error .timedOut),
    .now (.ok ([], ⟨.v4 ⟨10, 0, 0, 3⟩, 5000⟩)), .now (.ok (Text.utf8 "yo", ⟨.v4 ⟨10, 0, 0, 2⟩, 4000⟩))]

def shrinkingRun (depth : Nat) (sends : List (Script.Cue Script.Amount)) :
    Run interface Script.Datagrams Failure :=
  play Script.Datagrams.handler (run Settings.default depth) (shrinking sends)

/-- Replies that fail, the second of them late, and one that is cut short. -/
def badReplies : List (Script.Cue Script.Amount) :=
  [.now (.error .closed), ⟨5, some (.error .timedOut)⟩, .now (.ok (.count 1))]

theorem reflects_what_it_receives_shrinking :
    Script.Datagrams.handler.Within Prompt ∧ Script.Datagrams.handler.Within Fits ∧
      parseAddress Settings.default.listenHost = .ok (.v4 .unspecified) ∧
      (Script.Datagrams.handler.answer (.bind ⟨.v4 .unspecified, Settings.default.listenPort⟩)
        (shrinking [])).1 = some (.ok ()) ∧
      hearings (shrinkingRun 5 badReplies).acts = hearings (shrinkingRun 6 []).acts ∧
      sends (shrinkingRun 6 []).acts = [(Text.utf8 "hello", ⟨.v4 ⟨10, 0, 0, 2⟩, 4000⟩),
        ([], ⟨.v4 ⟨10, 0, 0, 3⟩, 5000⟩), (Text.utf8 "yo", ⟨.v4 ⟨10, 0, 0, 2⟩, 4000⟩)] ∧
      (calls (shrinkingRun 5 badReplies).acts).map Sigma.fst =
        (calls (shrinkingRun 6 []).acts).map Sigma.fst := by
  have hs : parseAddress Settings.default.listenHost = .ok (.v4 .unspecified) := rfl
  have hheard : hearings (shrinkingRun 5 badReplies).acts = hearings (shrinkingRun 6 []).acts := by
    cbv
  have hreceived : receives (shrinkingRun 6 []).acts =
      [(Text.utf8 "hello", ⟨.v4 ⟨10, 0, 0, 2⟩, 4000⟩), ([], ⟨.v4 ⟨10, 0, 0, 3⟩, 5000⟩),
        (Text.utf8 "yo", ⟨.v4 ⟨10, 0, 0, 2⟩, 4000⟩)] := by decide +kernel
  obtain ⟨-, -, -, hsends, -, -, hother⟩ :=
    reflects_what_it_receives prompt_script fits_script hs 6 (w := shrinking []) rfl
  exact ⟨prompt_script, fits_script, hs, rfl, hheard, hsends.trans hreceived,
    hother prompt_script fits_script 5 (shrinking badReplies) hheard⟩

end NetBench.Datagram.Reflector
