import Mathlib.Data.List.DropRight
import NetBench.Text.Blank

/-! What trimming leaves of a text: all that stands between the blanks at its start and those at its
end. -/
namespace NetBench.Text
variable {s t u v : List Char}

def Blanks (s : List Char) : Prop := ∀ c ∈ s, isBlank c = true

def Tight (s : List Char) : Prop :=
  (∀ c ∈ s.head?, isBlank c = false) ∧ ∀ c ∈ s.getLast?, isBlank c = false

/-- The text `t` is `s` without the blanks around it. -/
def Trimmed (s t : List Char) : Prop := ∃ u v, Blanks u ∧ Blanks v ∧ Tight t ∧ s = u ++ t ++ v

theorem Blanks.append (hu : Blanks u) (hv : Blanks v) : Blanks (u ++ v) :=
  List.forall_mem_append.mpr ⟨hu, hv⟩

private theorem dropWhile_of_head? (h : ∀ c ∈ s.head?, isBlank c = false) :
    s.dropWhile isBlank = s := by
  cases s with
  | nil => rfl
  | cons c s => exact List.dropWhile_cons_of_neg (by simpa using h c rfl)

private theorem head?_dropWhile (s : List Char) : ∀ c ∈ (s.dropWhile isBlank).head?, isBlank c = false := by
  intro c hc
  have hnot := List.head?_dropWhile_not isBlank s
  rw [Option.mem_def.mp hc] at hnot
  simpa using hnot

private theorem blanks_takeWhile (s : List Char) : Blanks (s.takeWhile isBlank) :=
  fun _ => List.mem_takeWhile_imp

private theorem trim_of_tight (hu : Blanks u) (hv : Blanks v) (ht : Tight t) :
    trim (u ++ t ++ v) = t := by
  rw [trim, List.append_assoc, List.dropWhile_append_of_pos hu]
  cases t with
  | nil =>
    rw [List.nil_append, List.dropWhile_eq_nil_iff.mpr hv]
    rfl
  | cons c t =>
    have hfront : (c :: t ++ v).dropWhile isBlank = c :: t ++ v := dropWhile_of_head? ht.1
    have hback : (c :: t).reverse.dropWhile isBlank = (c :: t).reverse :=
      dropWhile_of_head? (by rw [List.head?_reverse]; exact ht.2)
    rw [hfront, List.reverse_append,
      List.dropWhile_append_of_pos fun d hd => hv d (List.mem_reverse.mp hd), hback,
      List.reverse_reverse]

/-- Blanks go from both ends, all of them and nothing else. -/
theorem trim_eq_iff : trim s = t ↔ Trimmed s t := by
  constructor
  · rintro rfl
    let front := s.dropWhile isBlank
    have hfront : s.takeWhile isBlank ++ front = s := List.takeWhile_append_dropWhile
    have hback : trim s ++ (front.reverse.takeWhile isBlank).reverse = front := by
      rw [trim, ← List.reverse_append, List.takeWhile_append_dropWhile, List.reverse_reverse]
    refine ⟨s.takeWhile isBlank, (front.reverse.takeWhile isBlank).reverse, blanks_takeWhile s, ?_,
      ⟨?_, ?_⟩, ?_⟩
    · intro c hc
      exact blanks_takeWhile _ c (List.mem_reverse.mp hc)
    · intro c hc
      -- What is left starts where the text without its blanks in front does.
      have hsame : front.head? = (trim s).head? := by
        rw [← hback]
        cases htrim : trim s with
        | nil => rw [htrim] at hc; cases hc
        | cons => rfl
      exact head?_dropWhile s c (hsame ▸ hc)
    · rw [trim, List.getLast?_reverse]
      exact head?_dropWhile _
    · rw [List.append_assoc, hback, hfront]
  · rintro ⟨u, v, hu, hv, ht, rfl⟩
    exact trim_of_tight hu hv ht

theorem trimmed_trim (s : List Char) : Trimmed s (trim s) := trim_eq_iff.mp rfl

theorem trim_around (hu : Blanks u) (hv : Blanks v) (s : List Char) :
    trim (u ++ s ++ v) = trim s := by
  obtain ⟨u', v', hu', hv', ht, hs⟩ := trimmed_trim s
  refine trim_eq_iff.mpr ⟨u ++ u', v' ++ v, hu.append hu', hv'.append hv, ht, ?_⟩
  conv => lhs; rw [hs]
  simp

theorem Tight.trim_eq (h : Tight t) : trim t = t :=
  trim_eq_iff.mpr ⟨[], [], nofun, nofun, h, by simp⟩

theorem trim_trim (s : List Char) : trim (trim s) = trim s := by
  obtain ⟨_, _, _, _, ht, _⟩ := trimmed_trim s
  exact ht.trim_eq

theorem tight_of_forall (h : ∀ c ∈ s, isBlank c = false) : Tight s :=
  ⟨fun c hc => h c (List.mem_of_mem_head? hc), fun c hc => h c (List.mem_of_mem_getLast? hc)⟩

end NetBench.Text
