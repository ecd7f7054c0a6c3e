import NetBench.Proofs.Stream.Accounts
import NetBench.Proofs.Stream.Connection
import NetBench.Settings.File

/-! Both ends of a connection count the same bytes. What was written arrives in any pieces, and the
drain logs their sum once; the sender logs that sum less its greeting. -/
namespace NetBench.Stream
open Talk

namespace Drain

variable {s : Settings} {conn depth : Nat} {acts front back : List (Act (interface Phase))}

private theorem events_reads (counts : List Nat) : events (reads s conn counts) = [] := by
  induction counts with
  | nil => rfl
  | cons n counts ih => exact ih

/-- A connection whose reads end in a failing one, and which is given up then, is logged in full,
whatever comes before it and after it. -/
theorem events_connection {ending : Ending Failure}
    (h : Records Prompt (run s depth) acts ending)
    (he : acts = front ++ ⟨.accept none, some (.ok conn)⟩ :: back)
    (hr : ⟨.disconnect conn, none⟩ ∉ untilAccept back) {counts : List Nat} {why : Fault}
    (hg : given (untilAccept back) = counts.map (fun n => some (.ok n)) ++ [some (.error why)]) :
    ∃ elapsed, events (untilAccept back) =
      [.reading, .readFinished counts.sum.toUInt64, .drained ⟨counts.sum.toUInt64, elapsed⟩ why] := by
  obtain ⟨started, ended, hended⟩ := ended_connection h he hg
  generalize untilAccept back = heard at hended hr
  cases hended with
  | parting => exact absurd (List.mem_append_right _ (.head [])) hr
  | parted hlater =>
    refine ⟨ended - started, ?_⟩
    rw [events_append, events_append, events_append, events_reads]
    rcases hlater with rfl | rfl <;> rfl

end Drain

/-- Whatever pieces the bytes of a session arrive in, the drain that reads them to a close and may
give up the connection logs one end of it, in good order and with all of them. A total that the
sender logs is short of that by its greeting, and is the sum of its reports and of the window that
it left open. All that is on the condition that both can count so many bytes. -/
theorem totals_agree {σ τ : Type} {hc : Handler (interface Sender.Phase) σ}
    {hs : Handler (interface Drain.Phase) τ} (hcp : hc.Within Prompt) (hsp : hs.Within Prompt)
    (s t : Settings) (depth limit : Nat) (wc : σ) (ws : τ)
    {front back : List (Act (interface Drain.Phase))} {conn : Nat} {counts : List Nat} :
    let sent := (play hc (Sender.session s depth) wc).acts
    let heard := Drain.untilAccept back
    (play hs (Drain.run t limit) ws).acts = front ++ ⟨.accept none, some (.ok conn)⟩ :: back →
    Drain.given heard = counts.map (fun n => some (.ok n)) ++ [some (.error .closed)] →
    ⟨.disconnect conn, none⟩ ∉ heard → counts.sum = (Sender.takings sent).sum →
    (Sender.takings sent).sum < 2 ^ 64 →
    (∃ e, (events heard).filter (·.message == "Disconnected") = [e] ∧ e.level = .info ∧
      e.fields.lookup "error" = none ∧
      e.fields.lookup "bytes" = some (.number (Sender.takings sent).sum)) ∧
    ∀ e ∈ events sent,
      (∀ total, e.fields.lookup "total" = some (.number total) →
        total + (Sender.takings sent).headD 0 = (Sender.takings sent).sum ∧
        total = Sender.reported sent + Sender.unreported sent) ∧
      ∀ n, e.fields.lookup "unreported" = some (.number n) → n = Sender.unreported sent := by
  intro sent heard hacts hgiven hreleased hsum hfits
  obtain ⟨elapsed, hlog⟩ :=
    Drain.events_connection (records_play hsp _ ws) hacts hreleased hgiven
  have htail : (Sender.takings sent).tail.sum < 2 ^ 64 :=
    ((List.tail_sublist _).sum_le_sum fun _ _ => Nat.zero_le _).trans_lt hfits
  obtain ⟨hbytes, hcarries⟩ := Sender.balanced_sessioned
    (Sender.records_session (records_play hcp (Sender.session s depth) wc)) htail
  constructor
  · refine ⟨.drained ⟨counts.sum.toUInt64, elapsed⟩ .closed, ?_, rfl, rfl, ?_⟩
    · rw [hlog]
      rfl
    · rw [hsum]
      exact congrArg (some ∘ FieldValue.number) (UInt64.toNat_ofNat_of_lt' hfits)
  · intro e he
    obtain ⟨htotal, hunreported⟩ := hcarries e he
    refine ⟨?_, hunreported⟩
    intro total ht
    have htail : total = (Sender.takings sent).tail.sum := htotal total ht
    refine ⟨?_, by rw [htail, hbytes]⟩
    cases hg : Sender.takings sent with
    | nil => simp [htail, hg]
    | cons greeted rest => simp [htail, hg, Nat.add_comm]

/-- It takes four bytes of the greeting, and five of filler in two writes, and fails at the next. -/
def shortWrites : Script.Connections where
  listens := []
  accepts := []
  connects := []
  reads := []
  writes := [.now (.ok (.count 4)), .now (.ok (.count 3)), .now (.ok (.count 2)),
    .now (.error .timedOut)]
  clock := Clock.stepping 0 1000

/-- The same bytes in other pieces, after an accept that fails. -/
def otherPieces : Script.Connections where
  listens := []
  accepts := [.now (.error .timedOut), .now (.ok ())]
  connects := []
  reads := [.now (.ok (.count 1)), .now (.ok (.count 0)), .now (.ok (.count 8)),
    .now (.error .closed)]
  writes := []
  clock := Clock.stepping 0 1000

theorem released_script {Phase α : Type} (t : Program Phase α) (w : Script.Connections) (conn : Nat) :
    ⟨.disconnect conn, none⟩ ∉ (play (Script.Connections.handler Phase) t w).acts := by
  have hw : (Script.Connections.handler Phase).Within (· ≠ ⟨Request.disconnect conn, none⟩) := by
    intro r w he
    obtain ⟨rfl, hn⟩ := Sigma.mk.inj he
    cases eq_of_heq hn
  intro hm
  exact (records_play hw t w).within _ hm rfl

theorem totals_agree_other_pieces :
    let sent := (play (Script.Connections.handler Sender.Phase) (Sender.session Settings.default 5)
      shortWrites).acts
    let acts := (play (Script.Connections.handler Drain.Phase) (Drain.run Settings.default 5)
      otherPieces).acts
    let heard := Drain.untilAccept (acts.drop 8)
    Sender.takings sent = [4, 3, 2] ∧
    (∃ e, (events heard).filter (·.message == "Disconnected") = [e] ∧ e.level = .info ∧
      e.fields.lookup "error" = none ∧ e.fields.lookup "bytes" = some (.number 9)) ∧
    ∀ e ∈ events sent, ∀ total, e.fields.lookup "total" = some (.number total) → total + 4 = 9 := by
  intro sent acts heard
  have hacts : acts = acts.take 7 ++ ⟨.accept none, some (.ok 1)⟩ :: acts.drop 8 := rfl
  have hgiven : Drain.given heard =
      [1, 0, 8].map (fun n => some (.ok n)) ++ [some (.error .closed)] := rfl
  have hreleased : ⟨.disconnect 1, none⟩ ∉ heard := by
    intro hm
    have hlater : ⟨.disconnect 1, none⟩ ∈ acts.drop 8 := (List.takeWhile_subset _) hm
    exact released_script _ otherPieces 1 (List.mem_of_mem_drop hlater)
  obtain ⟨hend, htotal⟩ := totals_agree prompt_script prompt_script Settings.default
    Settings.default 5 5 shortWrites otherPieces hacts hgiven hreleased rfl (by decide)
  exact ⟨rfl, hend, fun e he total ht => ((htotal e he).1 total ht).1⟩

end NetBench.Stream
