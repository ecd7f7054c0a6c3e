/-! Programs that talk to their surroundings: trees of requests, with a branch for each answer.
What a request means is left to a handler, so one program runs over any transport. -/
namespace NetBench

/-- What a program may request, and the type of each answer. -/
structure Interface where
  Request : Type
  Answer : Request → Type

/-- A program with results in `α`. An endless loop is unfolded to a finite depth and ends in
`rest`, which stands for all that would follow. -/
inductive Talk (I : Interface) (α : Type) where
  | done (a : α)
  | ask (r : I.Request) (next : I.Answer r → Talk I α)
  | rest

namespace Talk
variable {I : Interface} {α β γ σ : Type}

protected def bind : Talk I α → (α → Talk I β) → Talk I β
  | .done a, f => f a
  | .ask r next, f => .ask r fun answer => (next answer).bind f
  | .rest, _ => .rest

instance : Monad (Talk I) where
  pure := .done
  bind := Talk.bind

@[simp] theorem pure_eq (a : α) : (pure a : Talk I α) = .done a := rfl

@[simp] theorem done_bind (a : α) (f : α → Talk I β) : (Talk.done a >>= f) = f a := rfl

@[simp] theorem ask_bind (r : I.Request) (next : I.Answer r → Talk I α) (f : α → Talk I β) :
    (Talk.ask r next >>= f) = .ask r fun answer => next answer >>= f := rfl

@[simp] theorem rest_bind (f : α → Talk I β) : (Talk.rest >>= f) = .rest := rfl

/-- Repeats a step until it stops with a result, at most `depth` times. -/
def loop (step : σ → Talk I (σ ⊕ α)) : Nat → σ → Talk I α
  | 0, _ => .rest
  | depth + 1, s => do
    match ← step s with
    | .inl s => loop step depth s
    | .inr a => return a

end Talk
end NetBench
