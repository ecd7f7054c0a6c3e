import NetBench.Talk.Play

/-! What a program may return, whatever its surroundings answer. -/
namespace NetBench.Talk
variable {I : Interface} {α β γ σ : Type} {P : α → Prop} {Q : β → Prop}

/-- Every result that a program may come to is one that `P` allows. -/
def Yields (P : α → Prop) : Talk I α → Prop
  | .done a => P a
  | .ask _ next => ∀ answer, Yields P (next answer)
  | .rest => True

theorem yields_true (t : Talk I α) : Yields (fun _ => True) t := by
  induction t with
  | done a => trivial
  | rest => trivial
  | ask r next ih => exact ih

theorem Yields.ask {r : I.Request} {next : I.Answer r → Talk I α}
    (h : ∀ answer, Yields P (next answer)) :
    Yields P ((.ask r .done : Talk I (I.Answer r)) >>= next) := h

theorem Yields.bind {t : Talk I α} {f : α → Talk I β} (h : Yields P t)
    (hf : ∀ a, P a → Yields Q (f a)) : Yields Q (t >>= f) := by
  induction t with
  | done a => exact hf a h
  | rest => trivial
  | ask r next ih => exact fun answer => ih answer (h answer)

/-- A loop returns what its last turn does. -/
theorem Yields.loop {step : γ → Talk I (γ ⊕ α)}
    (hs : ∀ s, Yields (Sum.elim (fun _ => True) P) (step s)) (depth : Nat) (s : γ) :
    Yields P (loop step depth s) := by
  induction depth generalizing s with
  | zero => trivial
  | succ depth ih =>
    apply Yields.bind (hs s)
    intro out hout
    cases out with
    | inl s => exact ih s
    | inr a => exact hout

theorem ending_ask {h : Handler I σ} {r : I.Request} {next : I.Answer r → Talk I α} {w : σ} {a : α}
    (he : (play h (.ask r next) w).ending = .returned a) :
    ∃ answer, (h.answer r w).1 = some answer ∧
      (play h (next answer) (h.answer r w).2).ending = .returned a := by
  cases ha : (h.answer r w).1 with
  | none =>
    rw [play_ask_none ha] at he
    cases he
  | some answer =>
    rw [play_ask_some ha] at he
    exact ⟨answer, rfl, he⟩

theorem Yields.play {t : Talk I α} (ht : Yields P t) (h : Handler I σ) {w : σ} {a : α}
    (he : (play h t w).ending = .returned a) : P a := by
  induction t generalizing w with
  | done b =>
    obtain rfl : b = a := Ending.returned.inj he
    exact ht
  | rest => cases he
  | ask r next ih =>
    obtain ⟨answer, _, hnext⟩ := ending_ask he
    exact ih answer (ht answer) hnext

end NetBench.Talk
