/-! Safety along a list: a state follows the elements, and every element has to be fine in the
state that those before it lead to. -/
namespace NetBench
variable {A M : Type} {ok : M → A → Prop} {next : M → A → M}

/-- Every element is fine in the state that the ones before it lead to, from `m` on. -/
def Throughout (ok : M → A → Prop) (next : M → A → M) : M → List A → Prop
  | _, [] => True
  | m, x :: xs => ok m x ∧ Throughout ok next (next m x) xs

@[simp] theorem throughout_nil (m : M) : Throughout ok next m [] := trivial

@[simp] theorem throughout_cons (m : M) (x : A) (xs : List A) :
    Throughout ok next m (x :: xs) ↔ ok m x ∧ Throughout ok next (next m x) xs := Iff.rfl

@[simp] theorem throughout_append (m : M) (front back : List A) :
    Throughout ok next m (front ++ back) ↔
      Throughout ok next m front ∧ Throughout ok next (front.foldl next m) back := by
  induction front generalizing m with
  | nil => simp
  | cons x front ih => simp [ih, and_assoc]

theorem Throughout.at {m : M} {front back : List A} {x : A}
    (h : Throughout ok next m (front ++ x :: back)) : ok (front.foldl next m) x :=
  ((throughout_append m front (x :: back)).mp h).2.1

/-- Elements that leave the state as it is and are fine in it are fine one after the other. -/
theorem throughout_of_forall {m : M} {l : List A} (hok : ∀ x ∈ l, ok m x)
    (hnext : ∀ x ∈ l, next m x = m) : Throughout ok next m l ∧ l.foldl next m = m := by
  induction l with
  | nil => exact ⟨trivial, rfl⟩
  | cons x l ih =>
    have hx := hnext x (.head l)
    obtain ⟨hl, hf⟩ := ih (fun y hy => hok y (.tail x hy)) (fun y hy => hnext y (.tail x hy))
    simp only [throughout_cons, List.foldl_cons, hx]
    exact ⟨⟨hok x (.head l), hl⟩, hf⟩

end NetBench
