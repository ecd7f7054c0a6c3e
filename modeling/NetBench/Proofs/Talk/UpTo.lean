import NetBench.Talk.Play

/-! Programs that go alike up to a request at which one of them stops. What it requests from there
on is its own affair; if it never comes to such a request, nothing tells the two apart. -/
namespace NetBench.Talk
variable {I : Interface} {α β σ τ : Type} {stops : I.Request → Bool} {t u : Talk I α}

/-- The same program, up to where the first of the two stops. -/
inductive UpTo (stops : I.Request → Bool) : Talk I α → Talk I α → Prop where
  | done (a : α) : UpTo stops (.done a) (.done a)
  | rest : UpTo stops .rest .rest
  | ask (r : I.Request) {next next' : I.Answer r → Talk I α}
      (h : ∀ a, UpTo stops (next a) (next' a)) : UpTo stops (.ask r next) (.ask r next')
  | stop {r : I.Request} (hr : stops r = true) (next : I.Answer r → Talk I α) (u : Talk I α) :
      UpTo stops (.ask r next) u

theorem UpTo.refl (t : Talk I α) : UpTo stops t t := by
  induction t with
  | done a => exact .done a
  | rest => exact .rest
  | ask r next ih => exact .ask r ih

theorem UpTo.bind {f g : α → Talk I β} (h : UpTo stops t u) (hf : ∀ a, UpTo stops (f a) (g a)) :
    UpTo stops (t >>= f) (u >>= g) := by
  induction h with
  | done a => exact hf a
  | rest => exact .rest
  | ask r _ ih => exact .ask r ih
  | stop hr next u => exact .stop hr _ _

theorem UpTo.loop {step step' : τ → Talk I (τ ⊕ α)} (hs : ∀ s, UpTo stops (step s) (step' s))
    (depth : Nat) (s : τ) : UpTo stops (loop step depth s) (loop step' depth s) := by
  induction depth generalizing s with
  | zero => exact .rest
  | succ depth ih =>
    apply UpTo.bind (hs s)
    intro out
    cases out with
    | inl s => exact ih s
    | inr a => exact .refl _

private theorem trace_ask (h : Handler I σ) {r : I.Request} (next : I.Answer r → Talk I α) (w : σ) :
    ∃ x back, (play h (.ask r next) w).trace = x :: back ∧ x.request = r := by
  cases ha : (h.answer r w).1 with
  | none => exact ⟨_, _, by rw [play_ask_none ha], rfl⟩
  | some a => exact ⟨_, _, by rw [play_ask_some ha], rfl⟩

/-- Up to the request that stops, the first run is the beginning of the other. If there is no such
request it is the whole of it. -/
theorem UpTo.play (hl : UpTo stops t u) (h : Handler I σ) (w : σ) :
    (play h t w).trace.takeWhile (fun x => !stops x.request) <+: (play h u w).trace ∧
      ((∀ x ∈ (play h t w).trace, stops x.request = false) → play h u w = play h t w) := by
  induction hl generalizing w with
  | done a => exact ⟨List.prefix_rfl, fun _ => rfl⟩
  | rest => exact ⟨List.prefix_rfl, fun _ => rfl⟩
  | ask r _ ih =>
    cases ha : (h.answer r w).1 with
    | none =>
      rw [play_ask_none ha, play_ask_none ha]
      exact ⟨List.takeWhile_prefix _, fun _ => rfl⟩
    | some a =>
      obtain ⟨hpre, hsame⟩ := ih a (h.answer r w).2
      rw [play_ask_some ha, play_ask_some ha]
      constructor
      · rw [List.takeWhile_cons]
        split
        · exact (List.prefix_cons_inj _).mpr hpre
        · exact List.nil_prefix
      · intro hnone
        rw [hsame fun x hx => hnone x (.tail _ hx)]
  | stop hr next u =>
    obtain ⟨x, back, htrace, rfl⟩ := trace_ask h next w
    rw [htrace]
    constructor
    · rw [List.takeWhile_cons_of_neg (by simp [hr])]
      exact List.nil_prefix
    · intro hnone
      have hx := hnone x (.head back)
      rw [hr] at hx
      cases hx

end NetBench.Talk
