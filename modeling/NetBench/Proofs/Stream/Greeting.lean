import NetBench.Proofs.Stream.Sending
import NetBench.Settings.File

/-! What reaches the peer of a session. Filler comes after what was taken of the greeting, however
little that is: the greeting is written once, and its count is not looked at. -/
namespace NetBench.Stream.Sender
open Talk

@[simp] def writing : Act (interface Phase) → Option (List UInt8 × Option (Except Fault Nat))
  | ⟨.write _ data, answer⟩ => some (data, answer)
  | _ => none

def writes (acts : List (Act (interface Phase))) : List (List UInt8 × Option (Except Fault Nat)) :=
  acts.filterMap writing

/-- What a write puts on the wire: as much from the front of its data as it reports. -/
def put : List UInt8 × Option (Except Fault Nat) → List UInt8
  | (data, some (.ok taken)) => data.take taken
  | _ => []

def wire (acts : List (Act (interface Phase))) : List UInt8 := (writes acts).flatMap put

/-- How much was taken of the greeting, which is what a session writes first. -/
def greeted? (acts : List (Act (interface Phase))) : Option Nat :=
  match writes acts with
  | (_, some (.ok taken)) :: _ => some taken
  | _ => none

/-- The writes of a session: the greeting and, if that was taken, nothing but filler. -/
inductive Greeted (s : Settings) : List (List UInt8 × Option (Except Fault Nat)) → Prop where
  | silent : Greeted s []
  | refused (answer : Option (Except Fault Nat)) (h : ∀ taken, answer ≠ some (.ok taken)) :
      Greeted s [(greetingBytes s.greeting, answer)]
  | taken (taken : Nat) {later : List (List UInt8 × Option (Except Fault Nat))}
      (h : ∀ x ∈ later, x.1 = filler s) :
      Greeted s ((greetingBytes s.greeting, some (.ok taken)) :: later)

section
variable (x : Act (interface Phase)) (front back : List (Act (interface Phase)))

@[simp] theorem writes_nil : writes [] = [] := rfl

@[simp] theorem writes_cons : writes (x :: back) = (writing x).toList ++ writes back := by
  rw [writes, List.filterMap_cons]
  cases writing x <;> rfl

@[simp] theorem writes_append : writes (front ++ back) = writes front ++ writes back :=
  List.filterMap_append

end

variable {σ : Type} {s : Settings} {conn depth : Nat} {p : Progress}
  {acts : List (Act (interface Phase))} {ending : Ending (Except Failure Nat)}

private theorem writes_opening (p : Progress) (now : UInt64) : writes (p.opening now) = [] := by
  cases h : (p.meter.poll now).1 <;> simp [Progress.opening, h]

private theorem writes_turns (p : Progress) (ts : List Turn) :
    ∀ x ∈ writes (turns s conn p ts), x.1 = filler s := by
  induction ts generalizing p with
  | nil => exact List.forall_mem_nil _
  | cons t ts ih =>
    rw [turns, writes_append, writes_opening, writes_cons]
    exact List.forall_mem_cons.mpr ⟨rfl, ih (p.after t)⟩

private theorem writes_final (h : Final s conn p acts ending) : ∀ x ∈ writes acts, x.1 = filler s := by
  cases h <;> rw [writes_append, writes_opening] <;> exact List.forall_mem_singleton.mpr rfl

private theorem writes_streamed (h : Streamed s conn depth p acts ending) :
    ∀ x ∈ writes acts, x.1 = filler s := by
  obtain ⟨ts, -, ⟨-, rfl, -⟩ | ⟨last, rfl, hf⟩⟩ := h
  · exact writes_turns p ts
  · rw [writes_append]
    exact List.forall_mem_append.mpr ⟨writes_turns p ts, writes_final hf⟩

private theorem greeted_conversed (h : Conversed s conn depth acts ending) :
    Greeted s (writes acts) := by
  cases h with
  | stalled => exact .refused none nofun
  | refused why => exact .refused (some (.error why)) nofun
  | streamed greeted start h =>
    have hlater := writes_streamed h
    exact .taken greeted hlater

private theorem writes_around (remote : Endpoint) {back : List (Act (interface Phase))}
    (hb : writes back = []) :
    writes (dialling remote conn ++ acts ++ back) = writes acts := by
  rw [writes_append, writes_append, hb, List.append_nil]
  rfl

private theorem greeted_sessioned (h : Sessioned s depth acts ending) : Greeted s (writes acts) := by
  cases h with
  | unreadable => exact .silent
  | unanswered => exact .silent
  | refused => exact .silent
  | parted _ _ hm =>
    rw [writes_around _ rfl]
    exact greeted_conversed hm
  | parting _ _ hm =>
    rw [writes_around _ rfl]
    exact greeted_conversed hm
  | conversing _ _ hm =>
    have hconversed := greeted_conversed hm
    exact hconversed

private theorem flatMap_put_filler {later : List (List UInt8 × Option (Except Fault Nat))}
    (h : ∀ x ∈ later, x.1 = filler s) :
    ∃ filled, later.flatMap put = List.replicate filled s.fillerByte := by
  induction later with
  | nil => exact ⟨0, rfl⟩
  | cons x later ih =>
    obtain ⟨hx, hlater⟩ := List.forall_mem_cons.mp h
    obtain ⟨filled, hfilled⟩ := ih hlater
    obtain ⟨n, hn⟩ : ∃ n, put x = List.replicate n s.fillerByte := by
      obtain ⟨data, answer⟩ := x
      obtain rfl : data = filler s := hx
      match answer with
      | some (.ok taken) => exact ⟨_, List.take_replicate⟩
      | some (.error _) | none => exact ⟨0, rfl⟩
    refine ⟨n + filled, ?_⟩
    rw [List.flatMap_cons, hn, hfilled, List.replicate_append_replicate]

private theorem Greeted.of_some (h : Greeted s (writes acts)) {taken : Nat}
    (hg : greeted? acts = some taken) :
    ∃ later, writes acts = (greetingBytes s.greeting, some (.ok taken)) :: later ∧
      ∀ x ∈ later, x.1 = filler s := by
  rw [greeted?] at hg
  generalize writes acts = all at h hg
  cases h with
  | silent => cases hg
  | refused answer h =>
    match answer, h with
    | none, _ | some (.error _), _ => cases hg
    | some (.ok n), h => exact absurd rfl (h n)
  | @taken n later h =>
    obtain rfl : n = taken := Option.some.inj hg
    exact ⟨later, rfl, h⟩

private theorem Greeted.of_none (h : Greeted s (writes acts)) (hg : greeted? acts = none) :
    (writes acts).length ≤ 1 ∧ wire acts = [] := by
  rw [greeted?] at hg
  rw [wire]
  generalize writes acts = all at h hg
  cases h with
  | silent => exact ⟨Nat.zero_le 1, rfl⟩
  | refused answer h =>
    match answer, h with
    | none, _ | some (.error _), _ => exact ⟨Nat.le_refl 1, rfl⟩
    | some (.ok n), h => exact absurd rfl (h n)
  | taken => cases hg

private theorem wire_eq {taken : Nat} {later : List (List UInt8 × Option (Except Fault Nat))}
    (hw : writes acts = (greetingBytes s.greeting, some (.ok taken)) :: later)
    (h : ∀ x ∈ later, x.1 = filler s) :
    ∃ filled, wire acts =
      (greetingBytes s.greeting).take taken ++ List.replicate filled s.fillerByte := by
  obtain ⟨filled, hfilled⟩ := flatMap_put_filler h
  refine ⟨filled, ?_⟩
  rw [wire, hw, List.flatMap_cons, hfilled]
  rfl

private theorem Greeted.of_cut (h : Greeted s (writes acts)) {front back : List (Act (interface Phase))}
    {data : List UInt8} {answer : Option (Except Fault Nat)}
    (hacts : acts = front ++ ⟨.write conn data, answer⟩ :: back) (hf : writes front ≠ []) {taken : Nat}
    (hg : greeted? acts = some taken) :
    data = filler s ∧ ∃ filled, wire front =
      (greetingBytes s.greeting).take taken ++ List.replicate filled s.fillerByte := by
  obtain ⟨later, hall, hlater⟩ := h.of_some hg
  have hcut : writes acts = writes front ++ (data, answer) :: writes back := by
    rw [hacts, writes_append, writes_cons]
    rfl
  rw [hcut, List.append_eq_cons_iff] at hall
  obtain ⟨hnil, -⟩ | ⟨before, hfront, rfl⟩ := hall
  · exact absurd hnil hf
  · obtain ⟨hbefore, hback⟩ := List.forall_mem_append.mp hlater
    exact ⟨hback (data, answer) (.head _), wire_eq hfront hbefore⟩

/-- What was taken of the greeting goes before all filler, and nothing goes between. If the greeting
was not taken at all, nothing is written after it; if it was taken whole, it is the beginning of
what goes over the wire by the first filler. -/
theorem filler_follows_what_was_greeted {h : Handler (interface Phase) σ} (hp : h.Within Prompt)
    (s : Settings) (depth : Nat) (w : σ) :
    let run := play h (session s depth) w
    let greeting := greetingBytes s.greeting
    (greeted? run.acts = none → (writes run.acts).length ≤ 1 ∧ wire run.acts = []) ∧
      ∀ taken, greeted? run.acts = some taken →
        (∃ filled, wire run.acts = greeting.take taken ++ List.replicate filled s.fillerByte) ∧
        (∀ front conn data answer back, run.acts = front ++ ⟨.write conn data, answer⟩ :: back →
          writes front ≠ [] → data = filler s ∧
            ∃ filled, wire front = greeting.take taken ++ List.replicate filled s.fillerByte) ∧
        (greeting.length ≤ taken →
          (∃ filled, wire run.acts = greeting ++ List.replicate filled s.fillerByte) ∧
          ∀ front conn data answer back, run.acts = front ++ ⟨.write conn data, answer⟩ :: back →
            writes front ≠ [] → greeting <+: wire front) := by
  intro run greeting
  have hgreeted : Greeted s (writes run.acts) :=
    greeted_sessioned (records_session (records_play hp (session s depth) w))
  refine ⟨hgreeted.of_none, ?_⟩
  intro taken hg
  obtain ⟨later, hw, hlater⟩ := hgreeted.of_some hg
  have hwire := wire_eq hw hlater
  refine ⟨hwire, fun front conn data answer back hx hf => hgreeted.of_cut hx hf hg, ?_⟩
  intro hwhole
  have hall : greeting.take taken = greeting := List.take_of_length_le hwhole
  constructor
  · rw [← hall]
    exact hwire
  · intro front conn data answer back hx hf
    obtain ⟨-, filled, hfront⟩ := hgreeted.of_cut hx hf hg
    rw [hfront, ← hall]
    exact List.prefix_append _ _

def firstTaking (first : Script.Amount) : Script.Connections where
  listens := []
  accepts := []
  connects := []
  reads := []
  writes := [.now (.ok first), .now (.ok .full)]
  clock := Clock.stepping 0 1000

def oneBuffer : Settings := { Settings.default with maxBytes := some 6, writeBufferSize := 16 }

def firstTakingRun (first : Script.Amount) :
    Run (interface Phase) Script.Connections (Except Failure Nat) :=
  play (Script.Connections.handler Phase) (session oneBuffer 2) (firstTaking first)

theorem filler_follows_what_was_greeted_firstTaking :
    (Script.Connections.handler Phase).Within Prompt ∧
      greeted? (firstTakingRun (.count 3)).acts = some 3 ∧
      (∃ filled, wire (firstTakingRun (.count 3)).acts = Text.utf8 "Hel" ++ List.replicate filled 97) ∧
      greeted? (firstTakingRun .full).acts = some 7 ∧
      ∃ filled, wire (firstTakingRun .full).acts =
        Text.utf8 "Hello!" ++ [0] ++ List.replicate filled 97 := by
  have hcut : greeted? (firstTakingRun (.count 3)).acts = some 3 := by decide +kernel
  have hwhole : greeted? (firstTakingRun .full).acts = some 7 := by decide +kernel
  obtain ⟨-, hsome⟩ := filler_follows_what_was_greeted prompt_script oneBuffer 2 (firstTaking (.count 3))
  obtain ⟨-, hfull⟩ := filler_follows_what_was_greeted prompt_script oneBuffer 2 (firstTaking .full)
  obtain ⟨-, -, hgot⟩ := hfull 7 hwhole
  exact ⟨prompt_script, hcut, (hsome 3 hcut).1, hwhole, (hgot (by decide +kernel)).1⟩

/-- Filler may follow a greeting of which only some was taken, and then the peer gets no beginning
of the greeting and filler. -/
theorem greeting_cut_short :
    greeted? (firstTakingRun (.count 3)).acts = some 3 ∧
      (writes (firstTakingRun (.count 3)).acts).length = 2 ∧
      wire (firstTakingRun (.count 3)).acts = Text.utf8 "Hel" ++ List.replicate 16 oneBuffer.fillerByte ∧
      ∀ n, ¬wire (firstTakingRun (.count 3)).acts <+:
        greetingBytes oneBuffer.greeting ++ List.replicate n oneBuffer.fillerByte := by
  have hwire : wire (firstTakingRun (.count 3)).acts =
      Text.utf8 "Hel" ++ List.replicate 16 oneBuffer.fillerByte := by decide +kernel
  refine ⟨by decide +kernel, by decide +kernel, hwire, ?_⟩
  rintro n ⟨rest, hrest⟩
  have hcut : Text.utf8 "Hel" = [72, 101, 108] := by decide +kernel
  have hgreeting : greetingBytes oneBuffer.greeting = [72, 101, 108, 108, 111, 33, 0] := by
    decide +kernel
  have hfiller : oneBuffer.fillerByte = 97 := rfl
  rw [hwire, hcut, hgreeting, hfiller] at hrest
  simp at hrest

end NetBench.Stream.Sender
