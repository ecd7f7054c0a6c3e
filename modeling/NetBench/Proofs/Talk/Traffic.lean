import Mathlib.Data.List.Forall2
import NetBench.Proofs.Talk.Record

/-! Programs that their surroundings cannot tell apart. Some requests show, others are a program's
own: those may differ in number, place and answer. -/
namespace NetBench
variable {I : Interface} {α β γ δ σ τ ι : Type} {shows : I.Request → Bool}

/-- What `view` makes of the requests that show. -/
def sights (shows : I.Request → Bool) (view : Exchange I → ι) (trace : List (Exchange I)) : List ι :=
  (trace.filter fun x => shows x.request).map view

/-- In worlds that `R` relates, what shows is answered and looks alike. What does not show is always
answered, and no matter. -/
structure Handler.Matches (shows : I.Request → Bool) (view : Exchange I → ι) (R : σ → τ → Prop)
    (h : Handler I σ) (h' : Handler I τ) : Prop where
  answer : ∀ {r w w'}, shows r = true → R w w' →
    (h'.answer r w').1 = (h.answer r w).1 ∧ R (h.answer r w).2 (h'.answer r w').2
  view : ∀ {r w w'} answer, R w w' → view ⟨r, answer, h'.moment w'⟩ = view ⟨r, answer, h.moment w⟩
  left : ∀ {r w w'}, shows r = false → R w w' →
    ∃ a, (h.answer r w).1 = some a ∧ R (h.answer r w).2 w'
  right : ∀ {r w w'}, shows r = false → R w w' →
    ∃ a, (h'.answer r w').1 = some a ∧ R w (h'.answer r w').2

namespace Talk

/-- The same requests that show, answered alike, and results in `S`. -/
inductive Alike (shows : I.Request → Bool) (S : α → β → Prop) : Talk I α → Talk I β → Prop where
  | done {a : α} {a' : β} (h : S a a') : Alike shows S (.done a) (.done a')
  | rest : Alike shows S .rest .rest
  | ask {r : I.Request} {next next' : I.Answer r → Talk I _} (hr : shows r = true)
      (h : ∀ a, Alike shows S (next a) (next' a)) : Alike shows S (.ask r next) (.ask r next')
  | left {r : I.Request} {next : I.Answer r → Talk I α} {u : Talk I β} (hr : shows r = false)
      (h : ∀ a, Alike shows S (next a) u) : Alike shows S (.ask r next) u
  | right {r : I.Request} {t : Talk I α} {next : I.Answer r → Talk I β} (hr : shows r = false)
      (h : ∀ a, Alike shows S t (next a)) : Alike shows S t (.ask r next)

theorem Alike.refl (hs : ∀ r, shows r = true) (t : Talk I α) : Alike shows (· = ·) t t := by
  induction t with
  | done a => exact .done rfl
  | rest => exact .rest
  | ask r next ih => exact .ask (hs r) ih

theorem Alike.bind {S : α → β → Prop} {T : γ → δ → Prop} {t : Talk I α} {u : Talk I β}
    {f : α → Talk I γ} {g : β → Talk I δ} (h : Alike shows S t u)
    (hf : ∀ a b, S a b → Alike shows T (f a) (g b)) : Alike shows T (t >>= f) (u >>= g) := by
  induction h with
  | done h => exact hf _ _ h
  | rest => exact .rest
  | ask hr _ ih => exact .ask hr ih
  | left hr _ ih => exact .left hr ih
  | right hr _ ih => exact .right hr ih

/-- Loops are alike if every turn is, from states in `T`. -/
theorem Alike.loop {S : α → β → Prop} {T : γ → δ → Prop} {step : γ → Talk I (γ ⊕ α)}
    {step' : δ → Talk I (δ ⊕ β)}
    (hs : ∀ s s', T s s' → Alike shows (Sum.LiftRel T S) (step s) (step' s')) (depth : Nat) {s : γ}
    {s' : δ} (h : T s s') : Alike shows S (loop step depth s) (loop step' depth s') := by
  induction depth generalizing s s' with
  | zero => exact .rest
  | succ depth ih =>
    apply Alike.bind (hs s s' h)
    intro out out' ho
    cases ho with
    | inl h => exact ih h
    | inr h => exact .done h

section
variable {view : Exchange I → ι} {x : Exchange I} {trace : List (Exchange I)}

private theorem sights_shown (hx : shows x.request = true) :
    sights shows view (x :: trace) = view x :: sights shows view trace := by
  simp [sights, hx]

private theorem sights_own (hx : shows x.request = false) :
    sights shows view (x :: trace) = sights shows view trace := by
  simp [sights, hx]

end

/-- What shows of their runs is the same, and they end alike, in related surroundings. -/
theorem Alike.play {view : Exchange I → ι} {R : σ → τ → Prop} {h : Handler I σ} {h' : Handler I τ}
    (hm : h.Matches shows view R h') {t u : Talk I α} (ha : Alike shows (· = ·) t u) {w : σ} {w' : τ}
    (hw : R w w') :
    sights shows view (play h' u w').trace = sights shows view (play h t w).trace ∧
      (play h' u w').ending = (play h t w).ending ∧ R (play h t w).world (play h' u w').world := by
  induction ha generalizing w w' with
  | done h =>
    subst h
    exact ⟨rfl, rfl, hw⟩
  | rest => exact ⟨rfl, rfl, hw⟩
  | @ask r next next' hr _ ih =>
    obtain ⟨hsame, hrel⟩ := hm.answer hr hw
    cases he : (h.answer r w).1 with
    | none =>
      rw [play_ask_none he, play_ask_none (hsame.trans he), sights_shown hr, sights_shown hr,
        hm.view none hw]
      exact ⟨rfl, rfl, hrel⟩
    | some a =>
      obtain ⟨hsights, hending, hworld⟩ := ih a hrel
      rw [play_ask_some he, play_ask_some (hsame.trans he), sights_shown hr, sights_shown hr,
        hm.view (some a) hw, hsights]
      exact ⟨rfl, hending, hworld⟩
  | left hr _ ih =>
    obtain ⟨a, he, hrel⟩ := hm.left hr hw
    rw [play_ask_some he, sights_own hr]
    exact ih a hrel
  | right hr _ ih =>
    obtain ⟨a, he, hrel⟩ := hm.right hr hw
    rw [play_ask_some he, sights_own hr]
    exact ih a hrel

theorem Alike.playTimes {view : Exchange I → ι} {R : σ → τ → Prop} {h : Handler I σ}
    {h' : Handler I τ} (hm : h.Matches shows view R h') {t u : Talk I α}
    (ha : Alike shows (· = ·) t u) (n : Nat) {w : σ} {w' : τ} (hw : R w w') :
    List.Forall₂ (fun run other => sights shows view other.trace = sights shows view run.trace ∧
      other.ending = run.ending) (playTimes h t n w) (playTimes h' u n w') := by
  induction n generalizing w w' with
  | zero => exact .nil
  | succ n ih =>
    obtain ⟨hsights, hending, hworld⟩ := ha.play hm hw
    exact .cons ⟨hsights, hending⟩ (ih hworld)

end Talk
end NetBench
