import Mathlib
import NetBench.Proofs.Address.Reading
import NetBench.Proofs.Talk.Record
import NetBench.Script.Cue

/-! How the setup of a role fails. A role reads its host and makes one call before anything else; if
either fails, it leaves its surroundings as they were, but for the cue of that call. -/
namespace NetBench
open Script Talk
variable {I : Interface} {σ α : Type}

/-- A role over scripts, by its setup. -/
structure Setup (I : Interface) (σ α : Type) where
  handler : Handler I σ
  program : Talk I α
  /-- The text that is read as an address. -/
  host : String
  /-- Which requests are calls on the transport. -/
  isCall : I.Request → Bool
  /-- The script of the first call. -/
  cues : σ → List (Cue Unit)
  /-- Surroundings with another script for that call, some milliseconds later. -/
  later : List (Cue Unit) → Nat → σ → σ
  /-- All scripts are the same, whatever else may differ. -/
  SameScripts : σ → σ → Prop
  /-- The first call as it fails. -/
  refusal : Ip → Fault → Act I
  /-- What is on record if the host is no address. -/
  unread : List (Act I)
  /-- What is on record if the first call fails. -/
  refused : Ip → Fault → List (Act I)
  /-- The result if the host is no address. -/
  address : Fault → α
  /-- The result if the first call fails. -/
  denied : Fault → α
  cues_later : ∀ left ms w, cues (later left ms w) = left := by intros; rfl
  later_later : ∀ left ms left' ms' w,
    later left' ms' (later left ms w) = later left' (ms + ms') w := by
      intros; simp only [Nat.add_assoc]
  later_cues : ∀ w, later (cues w) 0 w = w := by intros; rfl
  calls_unread : (unread.filter fun x => isCall x.1) = [] := by rfl
  calls_refused : ∀ ip why, ((refused ip why).filter fun x => isCall x.1) = [refusal ip why] := by
    intros; rfl

namespace Setup

def run (p : Setup I σ α) (w : σ) : Run I σ α := play p.handler p.program w

def calls (p : Setup I σ α) (run : Run I σ α) : List (Act I) :=
  run.acts.filter fun x => p.isCall x.1

/-- The surroundings after the first `n` cues for the first call, and after the time they take. -/
def past (p : Setup I σ α) (n : Nat) (w : σ) : σ :=
  p.later ((p.cues w).drop n) (((p.cues w).take n).map Cue.lasting).sum w

def Failed (p : Setup I σ α) (run : Run I σ α) : Prop :=
  ∃ why, run.ending = .returned (p.address why) ∨ run.ending = .returned (p.denied why)

def Unreadable (p : Setup I σ α) : Prop := ∃ why, parseAddress p.host = .error why

/-- The host is an address, and the first call is about to fail. -/
def Refused (p : Setup I σ α) (w : σ) (ip : Ip) (why : Fault) : Prop :=
  parseAddress p.host = .ok ip ∧ ∃ cue left, p.cues w = cue :: left ∧ cue.reply = some (.error why)

/-- When a setup fails, and what it leaves behind then. -/
structure Fails (p : Setup I σ α) : Prop where
  /-- A host that is no address is reported as it is written. Nothing is called, and nothing used. -/
  unreadable : p.Unreadable → ∀ w, (p.run w).acts = p.unread ∧
    (p.run w).ending = .returned (p.address (.badAddress p.host)) ∧ (p.run w).world = w
  /-- A failed call is the only one. Its cue is used up, and its fault is reported. -/
  refused : ∀ {w ip why}, p.Refused w ip why → (p.run w).acts = p.refused ip why ∧
    (p.run w).ending = .returned (p.denied why) ∧ (p.run w).world = p.past 1 w
  /-- Nothing else is reported as a failed setup. -/
  only : ∀ {w}, p.Failed (p.run w) → p.Unreadable ∨ ∃ ip why, p.Refused w ip why

/-- Setups fail as they should, and after any number of them the role does what it would have done
at once with the scripts that are left. -/
structure Atomic (p : Setup I σ α) : Prop extends p.Fails where
  /-- Failed setups use up a cue for each of their calls, and nothing else. What comes then goes by
  the scripts alone. -/
  renewed : ∀ {w : σ} {failed : List (Run I σ α)} {run : Run I σ α},
    playTimes p.handler p.program (failed.length + 1) w = failed ++ [run] →
    (∀ r ∈ failed, p.Failed r) →
    run = p.run (p.past (failed.flatMap p.calls).length w) ∧
      ∀ new, p.SameScripts (p.past (failed.flatMap p.calls).length w) new →
        p.calls (p.run new) = p.calls run ∧ (p.run new).ending = run.ending

variable {p : Setup I σ α}

/-- It is enough to run the role where its setup fails, and to know that it reports nothing of the
kind when its call gave no error. A script that is used up gives none. -/
theorem Fails.of
    (hunread : ∀ {why}, parseAddress p.host = .error why → ∀ w,
      (p.run w).acts = p.unread ∧ (p.run w).ending = .returned (p.address why) ∧ (p.run w).world = w)
    (hrefused : ∀ {w ip delay why left}, parseAddress p.host = .ok ip →
      p.cues w = ⟨delay, some (.error why)⟩ :: left → (p.run w).acts = p.refused ip why ∧
        (p.run w).ending = .returned (p.denied why) ∧
        (p.run w).world = p.later left (Clock.lasting delay) w)
    (honly : ∀ {w ip}, parseAddress p.host = .ok ip → p.Failed (p.run w) →
      ∃ why, (next (.now (.ok ())) (p.cues w)).1.reply = some (.error why)) : p.Fails where
  unreadable := by
    rintro ⟨why, hp⟩ w
    obtain rfl : why = .badAddress p.host := (parseAddress_eq_error_iff.mp hp).1
    exact hunread hp w
  refused := by
    rintro w ip why ⟨hp, ⟨delay, reply⟩, left, hcues, hreply⟩
    obtain rfl : reply = some (.error why) := hreply
    obtain ⟨hacts, hending, hworld⟩ := hrefused hp hcues
    refine ⟨hacts, hending, ?_⟩
    rw [hworld, past, hcues]
    rfl
  only := by
    intro w hf
    cases hp : parseAddress p.host with
    | error why => exact .inl ⟨why, hp⟩
    | ok ip =>
      obtain ⟨why, hreply⟩ := honly hp hf
      cases hcues : p.cues w with
      | nil =>
        rw [hcues] at hreply
        cases hreply
      | cons cue left =>
        rw [hcues] at hreply
        exact .inr ⟨ip, why, hp, cue, left, hcues, hreply⟩

private theorem past_zero (w : σ) : p.past 0 w = w := p.later_cues w

private theorem past_past (m n : Nat) (w : σ) : p.past n (p.past m w) = p.past (m + n) w := by
  simp only [past, p.cues_later, p.later_later, List.drop_drop]
  congr 1
  rw [List.take_add, List.map_append, List.sum_append]

private theorem Fails.world (h : p.Fails) {w : σ} (hf : p.Failed (p.run w)) :
    (p.run w).world = p.past (p.calls (p.run w)).length w := by
  rcases h.only hf with hu | ⟨ip, why, hr⟩
  · obtain ⟨hacts, _, hworld⟩ := h.unreadable hu w
    rw [hworld, calls, hacts, p.calls_unread]
    exact (past_zero w).symm
  · obtain ⟨hacts, _, hworld⟩ := h.refused hr
    rw [hworld, calls, hacts, p.calls_refused]
    rfl

private theorem Fails.last (h : p.Fails) {w : σ} {failed : List (Run I σ α)} {run : Run I σ α}
    (hplay : playTimes p.handler p.program (failed.length + 1) w = failed ++ [run])
    (hf : ∀ r ∈ failed, p.Failed r) : run = p.run (p.past (failed.flatMap p.calls).length w) := by
  induction failed generalizing w with
  | nil =>
    obtain ⟨hrun, -⟩ := List.cons.inj hplay
    rw [List.flatMap_nil, List.length_nil, past_zero]
    exact hrun.symm
  | cons r failed ih =>
    obtain ⟨rfl, hmore⟩ := List.cons.inj hplay
    have hr : p.Failed (p.run w) := hf _ (.head _)
    have hworld : (play p.handler p.program w).world = _ := h.world hr
    rw [hworld] at hmore
    have hlast := ih hmore fun r hr => hf r (.tail _ hr)
    rw [past_past] at hlast
    rw [hlast, List.flatMap_cons, List.length_append]
    rfl

/-- It is enough that the calls go by the scripts alone. -/
theorem Fails.atomic (h : p.Fails)
    (hs : ∀ {w new}, p.SameScripts w new →
      p.calls (p.run new) = p.calls (p.run w) ∧ (p.run new).ending = (p.run w).ending) :
    p.Atomic where
  toFails := h
  renewed hplay hf := by
    have hrun := h.last hplay hf
    refine ⟨hrun, ?_⟩
    intro new hnew
    rw [hrun]
    exact hs hnew

end Setup
end NetBench
