import NetBench.Talk.Basic

/-! Running a program against a handler, and the record of what it requested. -/
namespace NetBench

/-- Surroundings with state in `σ`. An answer of `none` never comes. Time is in milliseconds. -/
structure Handler (I : Interface) (σ : Type) where
  answer : (r : I.Request) → σ → Option (I.Answer r) × σ
  moment : σ → Nat

/-- A request with its answer, and the time at which it was made. -/
structure Exchange (I : Interface) where
  request : I.Request
  answer : Option (I.Answer request)
  moment : Nat

/-- How a run ends: with a result, at a request that is never answered, or at the depth to which a
loop was unfolded. -/
inductive Ending (α : Type) where
  | returned (a : α)
  | waiting
  | unfinished
  deriving DecidableEq, Repr

/-- A run: its exchanges in order, its end, and the surroundings after it. -/
structure Run (I : Interface) (σ α : Type) where
  trace : List (Exchange I)
  ending : Ending α
  world : σ

/-- A request with its answer, whenever it was made. -/
abbrev Act (I : Interface) : Type := (r : I.Request) × Option (I.Answer r)

def Exchange.act {I : Interface} (x : Exchange I) : Act I := ⟨x.request, x.answer⟩

def Run.acts {I : Interface} {σ α : Type} (run : Run I σ α) : List (Act I) :=
  run.trace.map Exchange.act

namespace Talk
variable {I : Interface} {α β σ : Type}

def play (h : Handler I σ) : Talk I α → σ → Run I σ α
  | .done a, s => ⟨[], .returned a, s⟩
  | .rest, s => ⟨[], .unfinished, s⟩
  | .ask r next, s =>
    match h.answer r s with
    | (none, s') => ⟨[⟨r, none, h.moment s⟩], .waiting, s'⟩
    | (some a, s') =>
      let run := play h (next a) s'
      ⟨⟨r, some a, h.moment s⟩ :: run.trace, run.ending, run.world⟩

@[simp] theorem play_done (h : Handler I σ) (a : α) (s : σ) :
    play h (.done a) s = ⟨[], .returned a, s⟩ := rfl

@[simp] theorem play_rest (h : Handler I σ) (s : σ) :
    play h (.rest : Talk I α) s = ⟨[], .unfinished, s⟩ := rfl

theorem play_ask_some {h : Handler I σ} {r : I.Request} {a : I.Answer r} {s : σ}
    (ha : (h.answer r s).1 = some a) (next : I.Answer r → Talk I α) :
    play h (.ask r next) s =
      ⟨⟨r, some a, h.moment s⟩ :: (play h (next a) (h.answer r s).2).trace,
        (play h (next a) (h.answer r s).2).ending, (play h (next a) (h.answer r s).2).world⟩ := by
  cases he : h.answer r s with
  | mk answer s' =>
    rw [he] at ha
    obtain rfl : answer = some a := ha
    simp only [play, he]

theorem play_ask_none {h : Handler I σ} {r : I.Request} {s : σ} (ha : (h.answer r s).1 = none)
    (next : I.Answer r → Talk I α) :
    play h (.ask r next) s = ⟨[⟨r, none, h.moment s⟩], .waiting, (h.answer r s).2⟩ := by
  cases he : h.answer r s with
  | mk answer s' =>
    rw [he] at ha
    obtain rfl : answer = none := ha
    simp only [play, he]

/-- The run of a sequence: the second part starts where the first returned. -/
theorem play_bind (h : Handler I σ) (t : Talk I α) (f : α → Talk I β) (s : σ) :
    play h (t >>= f) s =
      match play h t s with
      | ⟨trace, .returned a, s'⟩ =>
        let run := play h (f a) s'
        ⟨trace ++ run.trace, run.ending, run.world⟩
      | ⟨trace, .waiting, s'⟩ => ⟨trace, .waiting, s'⟩
      | ⟨trace, .unfinished, s'⟩ => ⟨trace, .unfinished, s'⟩ := by
  induction t generalizing s with
  | done a => simp
  | rest => simp
  | ask r next ih =>
    simp only [ask_bind, play]
    cases ha : h.answer r s with
    | mk answer s' =>
      cases answer with
      | none => simp
      | some a =>
        simp only [ih a s']
        cases he : play h (next a) s' with
        | mk trace ending world => cases ending <;> simp

/-- Consecutive runs of one program, each in the surroundings that the run before it left. -/
def playTimes (h : Handler I σ) (t : Talk I α) : Nat → σ → List (Run I σ α)
  | 0, _ => []
  | n + 1, s =>
    let run := play h t s
    run :: playTimes h t n run.world

end Talk
end NetBench
