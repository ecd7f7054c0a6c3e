import NetBench.Proofs.Stream.Session
import NetBench.Proofs.Stream.Turn
import NetBench.Proofs.Talk.UpTo

/-! Sessions under different byte limits. A higher limit, or none, changes nothing up to where the
lower one is reached. -/
namespace NetBench.Stream.Sender
open Talk Rate

/-- A limit is no higher than another. None is above all. -/
def NoHigher : Option UInt64 → Option UInt64 → Prop
  | _, none => True
  | some limit, some raised => limit ≤ raised
  | none, some _ => False

def atLimit : Request Phase → Bool
  | .note (.limitReached _) => true
  | _ => false

variable {σ : Type} {limit raised : Option UInt64}

private theorem upTo_push (s : Settings) (hl : NoHigher limit raised) (data : List UInt8)
    (conn : Nat) (total : UInt64) (meter : Meter) :
    UpTo atLimit (push { s with maxBytes := limit } data conn total meter)
      (push { s with maxBytes := raised } data conn total meter) := by
  apply UpTo.bind (.refl _)
  intro result
  cases result with
  | error why => exact .refl _
  | ok taken =>
    match limit, raised, hl with
    | none, none, _ => exact .refl _
    | some limit, none, _ =>
      by_cases h : limit ≤ addBytes total taken
      · simp only [if_pos h]
        exact .stop rfl _ _
      · simp only [if_neg h]
        exact .refl _
    | some limit, some raised, hl =>
      by_cases h : limit ≤ addBytes total taken
      · simp only [if_pos h]
        exact .stop rfl _ _
      · have hr : ¬raised ≤ addBytes total taken := fun hr => h (UInt64.le_trans hl hr)
        simp only [if_neg h, if_neg hr]
        exact .refl _

private theorem upTo_stream (s : Settings) (hl : NoHigher limit raised) (conn depth : Nat) :
    UpTo atLimit (stream { s with maxBytes := limit } conn depth)
      (stream { s with maxBytes := raised } conn depth) := by
  apply UpTo.bind (.refl _)
  intro start
  refine .loop ?_ depth _
  intro p
  rw [step_eq, step_eq]
  apply UpTo.bind (.refl _)
  intro now
  apply UpTo.bind (.refl _)
  intro _
  exact upTo_push s hl (filler s) conn p.total (p.meter.poll now).2

private theorem upTo_converse (s : Settings) (hl : NoHigher limit raised) (conn depth : Nat) :
    UpTo atLimit (converse { s with maxBytes := limit } conn depth)
      (converse { s with maxBytes := raised } conn depth) := by
  apply UpTo.bind (.refl _)
  intro _
  apply UpTo.bind (.refl _)
  intro greeted
  cases greeted with
  | error why => exact .refl _
  | ok _ => exact .bind (.refl _) fun _ => upTo_stream s hl conn depth

private theorem upTo_session (s : Settings) (hl : NoHigher limit raised) (depth : Nat) :
    UpTo atLimit (session { s with maxBytes := limit } depth)
      (session { s with maxBytes := raised } depth) := by
  unfold session
  cases parseAddress s.remoteHost with
  | error why => exact .refl _
  | ok ip =>
    apply UpTo.bind (.refl _)
    intro _
    apply UpTo.bind (.refl _)
    intro made
    cases made with
    | error why => exact .refl _
    | ok conn =>
      apply UpTo.bind (.refl _)
      intro _
      apply UpTo.bind (.refl _)
      intro _
      exact .bind (upTo_converse s hl conn depth) fun _ => .refl _

private theorem not_atLimit_of_not_logged {run : Run (interface Phase) σ (Except Failure Nat)}
    (h : ∀ total, .limitReached total ∉ events run.acts) :
    ∀ x ∈ run.trace, atLimit x.request = false := by
  rintro ⟨r, answer, moment⟩ hx
  change atLimit r = false
  unfold atLimit
  split
  · rename_i total
    have hact : ⟨.note (.limitReached total), answer⟩ ∈ run.acts := List.mem_map_of_mem hx
    exact (h total (List.mem_filterMap.mpr ⟨_, hact, rfl⟩)).elim
  · rfl

/-- All that a session does before it logs that its byte limit is reached, it also does under a
higher limit, or under none. If it never logs that, it is the same session. -/
theorem higher_limit_extends (s : Settings) (hl : NoHigher limit raised)
    (h : Handler (interface Phase) σ) (depth : Nat) (w : σ) :
    let run := play h (session { s with maxBytes := limit } depth) w
    let other := play h (session { s with maxBytes := raised } depth) w
    run.trace.takeWhile (fun x => !atLimit x.request) <+: other.trace ∧
      ((∀ total, .limitReached total ∉ events run.acts) → other = run) := by
  intro run other
  obtain ⟨hpre, hsame⟩ := (upTo_session s hl depth).play h w
  exact ⟨hpre, fun hn => hsame (not_atLimit_of_not_logged hn)⟩

theorem higher_limit_extends_stalling :
    let run (limit : Option UInt64) := play (Script.Connections.handler Phase)
      (session { Settings.default with maxBytes := limit } 5) stalling
    (run (some 1)).ending = .returned (.ok 1) ∧ (run (some 2)).ending = .waiting ∧
      (run (some 1)).trace.takeWhile (fun x => !atLimit x.request) <+: (run (some 2)).trace ∧
      run none = run (some 2) := by
  intro run
  have hl : NoHigher (some 1) (some 2) := show (1 : UInt64) ≤ 2 by decide
  have hnone : ∀ total, .limitReached total ∉ events (run (some 2)).acts := by
    intro total hm
    have hlog : events (run (some 2)).acts =
      [.connected ⟨.v4 ⟨192, 168, 1, 102⟩, 12344⟩, .greeting "Hello!"] := rfl
    simp [hlog] at hm
  have hunlimited : NoHigher (some 2) none := trivial
  exact ⟨rfl, rfl, (higher_limit_extends Settings.default hl _ 5 stalling).1,
    (higher_limit_extends Settings.default hunlimited _ 5 stalling).2 hnone⟩

end NetBench.Stream.Sender
