import NetBench.Proofs.Talk.Record
import NetBench.Script.Connections

/-! Records of roles over connections: the calls on the transport in them, the phase they lead to,
and the events they log. -/
namespace NetBench.Stream
open Talk
variable {Phase α σ : Type}

/-- Whether a request is a call on the transport. Clock, log and phase are the role's own. -/
@[simp] def Request.isCall : Request Phase → Bool
  | .clock | .note _ | .enter _ => false
  | _ => true

/-- What is the role's own never waits. Of the transport, nothing is asked. -/
def Prompt (x : Act (interface Phase)) : Prop := x.1.isCall = false → x.2 ≠ none

/-- The calls of a record, with what they gave. -/
def calls (acts : List (Act (interface Phase))) : List (Act (interface Phase)) :=
  acts.filter fun x => x.1.isCall

@[simp] def answering : Act (interface Phase) → Option (Option (Except Fault Nat))
  | ⟨.write _ _, answer⟩ => some answer
  | _ => none

def answers (acts : List (Act (interface Phase))) : List (Option (Except Fault Nat)) :=
  acts.filterMap answering

@[simp] def reading : Act (interface Phase) → Option (Option UInt64)
  | ⟨.clock, answer⟩ => some answer
  | _ => none

/-- What the clock showed, at each reading of a record. -/
def readings (acts : List (Act (interface Phase))) : List (Option UInt64) := acts.filterMap reading

section
variable (x : Act (interface Phase)) (start : Phase) (front back : List (Act (interface Phase)))

@[simp] theorem calls_nil : calls ([] : List (Act (interface Phase))) = [] := rfl

@[simp] theorem calls_cons :
    calls (x :: back) = if x.1.isCall then x :: calls back else calls back := List.filter_cons

@[simp] theorem calls_append : calls (front ++ back) = calls front ++ calls back :=
  List.filter_append _ _

@[simp] theorem phaseAfter_nil : phaseAfter start [] = start := rfl

@[simp] theorem phaseAfter_cons : phaseAfter start (x :: back) = phaseAfter (x.1.phaseFrom start) back :=
  rfl

@[simp] theorem phaseAfter_append :
    phaseAfter start (front ++ back) = phaseAfter (phaseAfter start front) back := List.foldl_append

@[simp] theorem events_nil : events ([] : List (Act (interface Phase))) = [] := rfl

@[simp] theorem events_cons : events (x :: back) = x.1.event?.toList ++ events back := by
  rw [events, List.filterMap_cons]
  cases x.1.event? <;> rfl

@[simp] theorem events_append : events (front ++ back) = events front ++ events back :=
  List.filterMap_append

@[simp] theorem answers_nil : answers ([] : List (Act (interface Phase))) = [] := rfl

@[simp] theorem answers_cons : answers (x :: back) = (answering x).toList ++ answers back := by
  rw [answers, List.filterMap_cons]
  cases answering x <;> rfl

@[simp] theorem answers_append : answers (front ++ back) = answers front ++ answers back :=
  List.filterMap_append

@[simp] theorem readings_nil : readings ([] : List (Act (interface Phase))) = [] := rfl

@[simp] theorem readings_cons : readings (x :: back) = (reading x).toList ++ readings back := by
  rw [readings, List.filterMap_cons]
  cases reading x <;> rfl

@[simp] theorem readings_append : readings (front ++ back) = readings front ++ readings back :=
  List.filterMap_append

end

theorem stallsIn_calls {cut whole : List (Act (interface Phase))} (h : StallsIn cut whole)
    (hp : ∀ x ∈ cut, Prompt x) : StallsIn (calls cut) (calls whole) := by
  obtain ⟨front, x, back, rfl, rfl⟩ := h
  have hx : x.1.isCall = true := by
    cases hc : x.1.isCall with
    | true => rfl
    | false => exact absurd rfl (hp x.unanswered (by simp) hc)
  refine ⟨calls front, x, calls back, ?_, ?_⟩
  · rw [calls_append, calls_cons, if_pos hx]
  · rw [calls_append, calls_cons, if_pos (by exact hx), calls_nil]

theorem prompt_script : (Script.Connections.handler Phase).Within Prompt := by
  intro r w hr
  cases r with
  | clock | note | enter => exact Option.some_ne_none _
  | _ => cases hr

/-- A request of the role's own is answered, and the program goes on. -/
theorem records_own {r : Request Phase} {f : r.Answer → Program Phase α}
    {acts : List (Act (interface Phase))} {ending : Ending α} (hr : r.isCall = false)
    (h : Records Prompt ((.ask r .done : Program Phase r.Answer) >>= f) acts ending) :
    ∃ a after, acts = ⟨r, some a⟩ :: after ∧ Records Prompt (f a) after ending := by
  obtain ⟨a, after, -, ha, hn⟩ := records_answered (fun hp => hp hr rfl) h
  exact ⟨a, after, ha, hn⟩

/-- A call is waited for without end, or the program goes on with what it gave. -/
theorem records_call {r : Request Phase} {f : r.Answer → Program Phase α}
    {acts : List (Act (interface Phase))} {ending : Ending α}
    (h : Records Prompt ((.ask r .done : Program Phase r.Answer) >>= f) acts ending) :
    (acts = [⟨r, none⟩] ∧ ending = .waiting) ∨
      ∃ a after, acts = ⟨r, some a⟩ :: after ∧ Records Prompt (f a) after ending := by
  rcases records_ask h with ⟨_, ha, he⟩ | ⟨a, after, _, ha, hn⟩
  · exact .inl ⟨ha, he⟩
  · exact .inr ⟨a, after, ha, hn⟩

end NetBench.Stream
