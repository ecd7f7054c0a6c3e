import NetBench.Proofs.Talk.Record

/-! Two programs in lockstep: they make the same requests one after the other, although what answers
the second is a bent form of what answers the first. -/
namespace NetBench

/-- A change of answers, request by request. -/
abbrev Bend (I : Interface) : Type := (r : I.Request) → I.Answer r → I.Answer r

def Exchange.bend {I : Interface} (b : Bend I) (x : Exchange I) : Exchange I :=
  ⟨x.request, x.answer.map (b x.request), x.moment⟩

def Run.bend {I : Interface} {σ τ α : Type} (b : Bend I) (world : σ → τ) (run : Run I σ α) :
    Run I τ α :=
  ⟨run.trace.map (Exchange.bend b), run.ending, world run.world⟩

/-- `h'` answers in `world w` what `h` answers in `w`, bent. -/
structure Handler.Bends {I : Interface} {σ τ : Type} (b : Bend I) (world : σ → τ)
    (h : Handler I σ) (h' : Handler I τ) : Prop where
  answer : ∀ r w, h'.answer r (world w) = ((h.answer r w).1.map (b r), world (h.answer r w).2)
  moment : ∀ w, h'.moment (world w) = h.moment w

namespace Talk
variable {I : Interface} {α β γ δ σ τ : Type} {b : Bend I}

/-- The same requests, whatever answers them; the results differ by `f`. -/
inductive Lockstep (b : Bend I) (f : α → β) : Talk I α → Talk I β → Prop where
  | done {a : α} {a' : β} (h : f a = a') : Lockstep b f (.done a) (.done a')
  | rest : Lockstep b f .rest .rest
  | ask (r : I.Request) {next next' : I.Answer r → Talk I _}
      (h : ∀ a, Lockstep b f (next a) (next' (b r a))) : Lockstep b f (.ask r next) (.ask r next')

theorem Lockstep.bind {f : α → β} {g : γ → δ} {t : Talk I α} {u : Talk I β} {k : α → Talk I γ}
    {k' : β → Talk I δ} (h : Lockstep b f t u) (hk : ∀ a, Lockstep b g (k a) (k' (f a))) :
    Lockstep b g (t >>= k) (u >>= k') := by
  induction h with
  | done h =>
    subst h
    exact hk _
  | rest => exact .rest
  | ask r _ ih => exact .ask r ih

/-- Loops go in lockstep if every turn does, from states that differ by `g`. -/
theorem Lockstep.loop {f : α → β} {g : γ → δ} {step : γ → Talk I (γ ⊕ α)} {step' : δ → Talk I (δ ⊕ β)}
    (hs : ∀ s, Lockstep b (Sum.map g f) (step s) (step' (g s))) (depth : Nat) (s : γ) :
    Lockstep b f (loop step depth s) (loop step' depth (g s)) := by
  induction depth generalizing s with
  | zero => exact .rest
  | succ depth ih =>
    apply Lockstep.bind (hs s)
    intro out
    cases out with
    | inl s => exact ih s
    | inr a => exact .done rfl

/-- In surroundings that differ by the bend of their answers, the runs do too. -/
theorem Lockstep.play {world : σ → τ} {h : Handler I σ} {h' : Handler I τ} {t u : Talk I α}
    (hl : Lockstep b id t u) (hb : h.Bends b world h') (w : σ) :
    play h' u (world w) = (play h t w).bend b world := by
  induction hl generalizing w with
  | done h =>
    subst h
    rfl
  | rest => rfl
  | ask r _ ih =>
    unfold Talk.play
    rw [hb.answer r w, hb.moment w]
    cases ha : h.answer r w with
    | mk answer w' =>
      cases answer with
      | none => rfl
      | some a =>
        simp only [Option.map_some, ih]
        rfl

theorem Lockstep.playTimes {world : σ → τ} {h : Handler I σ} {h' : Handler I τ} {t u : Talk I α}
    (hl : Lockstep b id t u) (hb : h.Bends b world h') (n : Nat) (w : σ) :
    playTimes h' u n (world w) = (playTimes h t n w).map (Run.bend b world) := by
  induction n generalizing w with
  | zero => rfl
  | succ n ih => simp [Talk.playTimes, hl.play hb w, Run.bend, ih]

end Talk
end NetBench
