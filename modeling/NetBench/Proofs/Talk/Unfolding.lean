import NetBench.Datagram.Prober
import NetBench.Datagram.Reflector
import NetBench.Stream.Drain
import NetBench.Stream.Sender

/-! Programs unfolded further. What is unfolded further goes on where the other rests, so a run that
does not come to rest is the same at every depth beyond its own. -/
namespace NetBench

/-- `long` goes on where `short` rests: they are the same if `short` does not. -/
structure Run.Extends {I : Interface} {σ α : Type} (long short : Run I σ α) : Prop where
  trace_prefix : short.trace <+: long.trace
  eq_of_ending : short.ending ≠ .unfinished → long = short

namespace Talk
variable {I : Interface} {α β σ τ : Type} {t u : Talk I α}

/-- A program, and the same with anything in place of its rests. -/
inductive Deeper : Talk I α → Talk I α → Prop where
  | done (a : α) : Deeper (.done a) (.done a)
  | rest (u : Talk I α) : Deeper .rest u
  | ask (r : I.Request) {next further : I.Answer r → Talk I α}
      (h : ∀ a, Deeper (next a) (further a)) : Deeper (.ask r next) (.ask r further)

theorem Deeper.refl (t : Talk I α) : Deeper t t := by
  induction t with
  | done a => exact .done a
  | rest => exact .rest _
  | ask r next ih => exact .ask r ih

theorem Deeper.bind {f g : α → Talk I β} (h : Deeper t u) (hf : ∀ a, Deeper (f a) (g a)) :
    Deeper (t >>= f) (u >>= g) := by
  induction h with
  | done a => exact hf a
  | rest u => exact .rest _
  | ask r h ih => exact .ask r ih

theorem Deeper.loop {step further : τ → Talk I (τ ⊕ α)} (hs : ∀ s, Deeper (step s) (further s))
    {depth more : Nat} (hd : depth ≤ more) (s : τ) :
    Deeper (loop step depth s) (loop further more s) := by
  induction depth generalizing more s with
  | zero => exact .rest _
  | succ depth ih =>
    obtain ⟨more, rfl⟩ : ∃ n, more = n + 1 := ⟨more - 1, by omega⟩
    apply Deeper.bind (hs s)
    intro out
    cases out with
    | inl s' => exact ih (Nat.le_of_succ_le_succ hd) s'
    | inr a => exact .refl _

/-- The run of a deeper program goes on where the other rests. -/
theorem Deeper.play (hd : Deeper t u) (h : Handler I σ) (w : σ) :
    (play h u w).Extends (play h t w) := by
  induction hd generalizing w with
  | done a => exact ⟨List.prefix_rfl, fun _ => rfl⟩
  | rest u => exact ⟨List.nil_prefix, fun he => absurd rfl he⟩
  | ask r _ ih =>
    unfold Talk.play
    cases ha : h.answer r w with
    | mk answer w' =>
      cases answer with
      | none => exact ⟨List.prefix_rfl, fun _ => rfl⟩
      | some a =>
        obtain ⟨hpre, heq⟩ := ih a w'
        refine ⟨(List.prefix_cons_inj _).mpr hpre, ?_⟩
        intro he
        have hrun := heq he
        simp only [hrun]

end Talk
open Talk

variable {s : Settings} {depth more : Nat}

namespace Stream.Sender

theorem deeper_stream (hd : depth ≤ more) (conn : Nat) :
    Deeper (stream s conn depth) (stream s conn more) := by
  apply Deeper.bind (.refl _)
  intro start
  exact .loop (fun _ => .refl _) hd _

theorem deeper_converse (hd : depth ≤ more) (conn : Nat) :
    Deeper (converse s conn depth) (converse s conn more) := by
  apply Deeper.bind (.refl _)
  intro _
  apply Deeper.bind (.refl _)
  intro result
  cases result with
  | error why => exact .refl _
  | ok greeted => exact .bind (.refl _) fun _ => deeper_stream hd conn

/-- A session is the same at every depth, as far as it is unfolded. -/
theorem deeper_session (hd : depth ≤ more) : Deeper (session s depth) (session s more) := by
  unfold session
  cases parseAddress s.remoteHost with
  | error why => exact .refl _
  | ok ip =>
    apply Deeper.bind (.refl _)
    intro _
    apply Deeper.bind (.refl _)
    intro made
    cases made with
    | error why => exact .refl _
    | ok conn =>
      apply Deeper.bind (.refl _)
      intro _
      apply Deeper.bind (.refl _)
      intro _
      exact .bind (deeper_converse hd conn) fun _ => .refl _

end Stream.Sender

namespace Stream.Drain

theorem deeper_serveOne (hd : depth ≤ more) : Deeper (serveOne s depth) (serveOne s more) := by
  apply Deeper.bind (.refl _)
  intro _
  apply Deeper.bind (.refl _)
  intro made
  cases made with
  | error why => exact .refl _
  | ok conn =>
    apply Deeper.bind (.refl _)
    intro _
    apply Deeper.bind (.refl _)
    intro _
    apply Deeper.bind (.refl _)
    intro started
    exact .bind (.loop (fun _ => .refl _) hd 0) fun _ => .refl _

/-- A drain is the same at every depth, as far as both of its loops are unfolded. -/
theorem deeper_run (hd : depth ≤ more) : Deeper (run s depth) (run s more) := by
  unfold run
  cases parseAddress s.listenHost with
  | error why => exact .refl _
  | ok ip =>
    apply Deeper.bind (.refl _)
    intro _
    apply Deeper.bind (.refl _)
    intro result
    cases result with
    | error why => exact .refl _
    | ok _ =>
      apply Deeper.bind (.refl _)
      intro _
      exact .loop (fun _ => .bind (deeper_serveOne hd) fun _ => .refl _) hd ()

end Stream.Drain

namespace Datagram.Prober

/-- A prober is the same at every depth, as far as it is unfolded. -/
theorem deeper_run (hd : depth ≤ more) : Deeper (run s depth) (run s more) := by
  unfold run
  cases parseAddress s.remoteHost with
  | error why => exact .refl _
  | ok ip =>
    apply Deeper.bind (.refl _)
    intro result
    cases result with
    | error why => exact .refl _
    | ok _ => exact .loop (fun _ => .refl _) hd _

end Datagram.Prober

namespace Datagram.Reflector

/-- A reflector is the same at every depth, as far as it is unfolded. -/
theorem deeper_run (hd : depth ≤ more) : Deeper (run s depth) (run s more) := by
  unfold run
  cases parseAddress s.listenHost with
  | error why => exact .refl _
  | ok ip =>
    apply Deeper.bind (.refl _)
    intro result
    cases result with
    | error why => exact .refl _
    | ok _ => exact .bind (.refl _) fun _ => .loop (fun _ => .refl _) hd _

end Datagram.Reflector
end NetBench
