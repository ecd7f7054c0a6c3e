import NetBench.Talk.Play

/-! What a program may leave on record, whatever its surroundings answer.
Facts about every run are proved on records, where no state of the surroundings is in the way. -/
namespace NetBench

def Act.unanswered {I : Interface} (x : Act I) : Act I := ⟨x.1, none⟩

/-- `cut` goes like `whole` up to a request that is never answered, and ends there. -/
def StallsIn {I : Interface} (cut whole : List (Act I)) : Prop :=
  ∃ front x back, whole = front ++ x :: back ∧ cut = front ++ [x.unanswered]

theorem StallsIn.append {I : Interface} {cut whole : List (Act I)} (before : List (Act I))
    (h : StallsIn cut whole) : StallsIn (before ++ cut) (before ++ whole) := by
  obtain ⟨front, x, back, rfl, rfl⟩ := h
  exact ⟨before ++ front, x, back, by simp, by simp⟩

def Ending.map {α β : Type} (f : α → β) : Ending α → Ending β
  | .returned a => .returned (f a)
  | .waiting => .waiting
  | .unfinished => .unfinished

theorem Ending.map_injective {α β : Type} {f : α → β} (hf : Function.Injective f) :
    Function.Injective (Ending.map f) := by
  intro a b h
  cases a <;> cases b <;> simp_all [Ending.map, hf.eq_iff]

@[simp] theorem Ending.map_eq_waiting {α β : Type} {f : α → β} {e : Ending α} :
    e.map f = .waiting ↔ e = .waiting := by
  cases e <;> simp [Ending.map]

@[simp] theorem Ending.map_eq_unfinished {α β : Type} {f : α → β} {e : Ending α} :
    e.map f = .unfinished ↔ e = .unfinished := by
  cases e <;> simp [Ending.map]

@[simp] theorem Ending.map_eq_returned {α β : Type} {f : α → β} {e : Ending α} {b : β} :
    e.map f = .returned b ↔ ∃ a, f a = b ∧ e = .returned a := by
  cases e <;> simp [Ending.map]

/-- Surroundings that answer only as `P` allows. -/
def Handler.Within {I : Interface} {σ : Type} (P : Act I → Prop) (h : Handler I σ) : Prop :=
  ∀ r w, P ⟨r, (h.answer r w).1⟩

namespace Talk
variable {I : Interface} {α β σ : Type} {P : Act I → Prop}

/-- What a program may leave on record, with how it ends, when every act is one that `P` allows. -/
inductive Records (P : Act I → Prop) : Talk I α → List (Act I) → Ending α → Prop where
  | done (a : α) : Records P (.done a) [] (.returned a)
  | rest : Records P .rest [] .unfinished
  | waiting {r : I.Request} {next : I.Answer r → Talk I α} :
      P ⟨r, none⟩ → Records P (.ask r next) [⟨r, none⟩] .waiting
  | answered {r : I.Request} {next : I.Answer r → Talk I α} {a : I.Answer r} {acts : List (Act I)}
      {ending : Ending α} : P ⟨r, some a⟩ → Records P (next a) acts ending →
      Records P (.ask r next) (⟨r, some a⟩ :: acts) ending

/-- A run leaves a record that its surroundings allow. -/
theorem records_play {h : Handler I σ} (hh : h.Within P) (t : Talk I α) (w : σ) :
    Records P t (play h t w).acts (play h t w).ending := by
  induction t generalizing w with
  | done a => exact .done a
  | rest => exact .rest
  | ask r next ih =>
    have hr := hh r w
    unfold play
    cases ha : h.answer r w with
    | mk answer w' =>
      rw [ha] at hr
      cases answer with
      | none => exact .waiting hr
      | some a => exact .answered hr (ih a w')

/-- What a program asks first is first on record, with what it gave. -/
theorem head?_acts_ask (h : Handler I σ) (r : I.Request) (next : I.Answer r → Talk I α) (w : σ) :
    (play h (.ask r next) w).acts.head? = some ⟨r, (h.answer r w).1⟩ := by
  cases ha : (h.answer r w).1 with
  | none => rw [play_ask_none ha]; rfl
  | some a => rw [play_ask_some ha]; rfl

theorem mem_acts_ask {h : Handler I σ} {r : I.Request} {next : I.Answer r → Talk I α} {w : σ} :
    ⟨r, (h.answer r w).1⟩ ∈ (play h (.ask r next) w).acts :=
  List.mem_of_mem_head? (head?_acts_ask h r next w)

theorem mem_acts_next {h : Handler I σ} {r : I.Request} {next : I.Answer r → Talk I α} {w : σ}
    {a : I.Answer r} (ha : (h.answer r w).1 = some a) {x : Act I}
    (hx : x ∈ (play h (next a) (h.answer r w).2).acts) : x ∈ (play h (.ask r next) w).acts := by
  rw [play_ask_some ha]
  exact .tail _ hx

/-- A run that does not wait for ever gets an answer to what it asks first, and goes on with it. -/
theorem play_ask_of_ne_waiting {h : Handler I σ} {r : I.Request} {next : I.Answer r → Talk I α} {w : σ}
    (hr : (play h (.ask r next) w).ending ≠ .waiting) :
    ∃ a, (h.answer r w).1 = some a ∧
      (play h (next a) (h.answer r w).2).ending ≠ .waiting ∧
      play h (.ask r next) w =
        ⟨⟨r, some a, h.moment w⟩ :: (play h (next a) (h.answer r w).2).trace,
          (play h (next a) (h.answer r w).2).ending, (play h (next a) (h.answer r w).2).world⟩ := by
  cases ha : (h.answer r w).1 with
  | none =>
    rw [play_ask_none ha] at hr
    exact absurd rfl hr
  | some a =>
    have hrun := play_ask_some ha next
    rw [hrun] at hr
    exact ⟨a, rfl, hr, hrun⟩

theorem Records.within {t : Talk I α} {acts : List (Act I)} {ending : Ending α}
    (h : Records P t acts ending) : ∀ x ∈ acts, P x := by
  induction h with
  | done a => exact fun _ hx => nomatch hx
  | rest => exact fun _ hx => nomatch hx
  | waiting hp => exact List.forall_mem_singleton.mpr hp
  | answered hp _ ih => exact List.forall_mem_cons.mpr ⟨hp, ih⟩

@[simp] theorem records_done_iff {a : α} {acts : List (Act I)} {ending : Ending α} :
    Records P (.done a) acts ending ↔ acts = [] ∧ ending = .returned a := by
  constructor
  · intro h
    cases h
    exact ⟨rfl, rfl⟩
  · rintro ⟨rfl, rfl⟩
    exact .done a

@[simp] theorem records_rest_iff {acts : List (Act I)} {ending : Ending α} :
    Records P .rest acts ending ↔ acts = [] ∧ ending = .unfinished := by
  constructor
  · intro h
    cases h
    exact ⟨rfl, rfl⟩
  · rintro ⟨rfl, rfl⟩
    exact .rest

/-- A program that asks first either waits for ever or goes on with the answer. -/
theorem records_ask {r : I.Request} {next : I.Answer r → Talk I α} {acts : List (Act I)}
    {ending : Ending α} (h : Records P (.ask r next) acts ending) :
    (P ⟨r, none⟩ ∧ acts = [⟨r, none⟩] ∧ ending = .waiting) ∨
      ∃ a after, P ⟨r, some a⟩ ∧ acts = ⟨r, some a⟩ :: after ∧ Records P (next a) after ending := by
  cases h with
  | waiting hp => exact .inl ⟨hp, rfl, rfl⟩
  | answered hp hr => exact .inr ⟨_, _, hp, rfl, hr⟩

theorem records_answered {r : I.Request} {f : I.Answer r → Talk I α} {acts : List (Act I)}
    {ending : Ending α} (hr : ¬P ⟨r, none⟩)
    (h : Records P ((.ask r .done : Talk I (I.Answer r)) >>= f) acts ending) :
    ∃ a after, P ⟨r, some a⟩ ∧ acts = ⟨r, some a⟩ :: after ∧ Records P (f a) after ending := by
  rcases records_ask h with ⟨hp, _, _⟩ | hgo
  · exact absurd hp hr
  · exact hgo

/-- A sequence records its first part alone, if that does not return, or both parts. -/
theorem records_bind {t : Talk I α} {f : α → Talk I β} {acts : List (Act I)} {ending : Ending β}
    (h : Records P (t >>= f) acts ending) :
    (∃ a front back, acts = front ++ back ∧ Records P t front (.returned a) ∧
        Records P (f a) back ending) ∨
      (Records P t acts .waiting ∧ ending = .waiting) ∨
      (Records P t acts .unfinished ∧ ending = .unfinished) := by
  induction t generalizing acts with
  | done a => exact .inl ⟨a, [], acts, rfl, .done a, h⟩
  | rest =>
    obtain ⟨rfl, rfl⟩ := records_rest_iff.mp h
    exact .inr (.inr ⟨.rest, rfl⟩)
  | ask r next ih =>
    rcases records_ask h with ⟨hp, rfl, rfl⟩ | ⟨a, after, hp, rfl, ha⟩
    · exact .inr (.inl ⟨.waiting hp, rfl⟩)
    · rcases ih a ha with ⟨b, front, back, rfl, hf, hb⟩ | ⟨hw, he⟩ | ⟨hu, he⟩
      · exact .inl ⟨b, ⟨r, some a⟩ :: front, back, rfl, .answered hp hf, hb⟩
      · exact .inr (.inl ⟨.answered hp hw, he⟩)
      · exact .inr (.inr ⟨.answered hp hu, he⟩)

/-- A loop takes a turn and goes on, or ends as the turn does. -/
theorem records_loop {step : σ → Talk I (σ ⊕ α)} {depth : Nat} {s : σ} {acts : List (Act I)}
    {ending : Ending α} (h : Records P (loop step (depth + 1) s) acts ending) :
    (∃ s' front back, acts = front ++ back ∧ Records P (step s) front (.returned (.inl s')) ∧
        Records P (loop step depth s') back ending) ∨
      Records P (step s) acts (ending.map .inr) := by
  rcases records_bind h with ⟨out, front, back, rfl, hf, hb⟩ | ⟨hw, rfl⟩ | ⟨hu, rfl⟩
  · cases out with
    | inl s' => exact .inl ⟨s', front, back, rfl, hf, hb⟩
    | inr a =>
      obtain ⟨rfl, rfl⟩ := records_done_iff.mp hb
      rw [List.append_nil]
      exact .inr hf
  · exact .inr hw
  · exact .inr hu

theorem play_bind_of_waiting {h : Handler I σ} {t : Talk I α} {w : σ}
    (he : (play h t w).ending = .waiting) (f : α → Talk I β) :
    (play h (t >>= f) w).ending = .waiting := by
  rw [play_bind]
  cases hr : play h t w with
  | mk trace ending world =>
    rw [hr] at he
    obtain rfl : ending = .waiting := he
    rfl

theorem play_loop_inl {h : Handler I σ} {τ : Type} {step : τ → Talk I (τ ⊕ α)} {s s' : τ} {w : σ}
    (he : (play h (step s) w).ending = .returned (.inl s')) (depth : Nat) :
    play h (loop step (depth + 1) s) w =
      ⟨(play h (step s) w).trace ++ (play h (loop step depth s') (play h (step s) w).world).trace,
        (play h (loop step depth s') (play h (step s) w).world).ending,
        (play h (loop step depth s') (play h (step s) w).world).world⟩ := by
  rw [loop, play_bind]
  cases hr : play h (step s) w with
  | mk trace ending world =>
    rw [hr] at he
    obtain rfl : ending = .returned (.inl s') := he
    rfl

theorem play_loop_inr {h : Handler I σ} {τ : Type} {step : τ → Talk I (τ ⊕ α)} {s : τ} {a : α} {w : σ}
    (he : (play h (step s) w).ending = .returned (.inr a)) (depth : Nat) :
    play h (loop step (depth + 1) s) w =
      ⟨(play h (step s) w).trace, .returned a, (play h (step s) w).world⟩ := by
  rw [loop, play_bind]
  cases hr : play h (step s) w with
  | mk trace ending world =>
    rw [hr] at he
    obtain rfl : ending = .returned (.inr a) := he
    exact congrArg (Run.mk · _ _) (List.append_nil trace)

theorem mem_playTimes {h : Handler I σ} {t : Talk I α} {n : Nat} {w : σ} {run : Run I σ α}
    (hr : run ∈ playTimes h t n w) : ∃ w', run = play h t w' := by
  induction n generalizing w with
  | zero => cases hr
  | succ n ih =>
    cases hr with
    | head => exact ⟨w, rfl⟩
    | tail _ hr => exact ih hr

end Talk
end NetBench
