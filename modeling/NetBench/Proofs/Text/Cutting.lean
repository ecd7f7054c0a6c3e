import NetBench.Text.Pieces

/-! Cutting at separators takes a text apart as it was put together: a part without separators, one
separator, and the rest. -/
namespace NetBench.Text
variable {sep : Char} {cs rest : List Char}

private theorem pieces_cons {c : Char} (h : c ≠ sep) {p : List Char} {ps : List (List Char)}
    (hp : pieces sep rest = p :: ps) : pieces sep (c :: rest) = (c :: p) :: ps := by
  simp only [pieces, if_neg h, hp]

theorem pieces_of_not_mem (h : sep ∉ cs) : pieces sep cs = [cs] := by
  induction cs with
  | nil => rfl
  | cons c cs ih =>
    obtain ⟨hne, hcs⟩ : sep ≠ c ∧ sep ∉ cs := by simpa using h
    exact pieces_cons (Ne.symm hne) (ih hcs)

theorem pieces_append (h : sep ∉ cs) : pieces sep (cs ++ sep :: rest) = cs :: pieces sep rest := by
  induction cs with
  | nil => exact if_pos rfl
  | cons c cs ih =>
    obtain ⟨hne, hcs⟩ : sep ≠ c ∧ sep ∉ cs := by simpa using h
    exact pieces_cons (Ne.symm hne) (ih hcs)

theorem joinWith_cons {p : List Char} {ps : List (List Char)} (h : ps ≠ []) :
    joinWith [sep] (p :: ps) = p ++ sep :: joinWith [sep] ps := by
  cases ps with
  | nil => exact absurd rfl h
  | cons q ps => simp [joinWith]

end NetBench.Text
