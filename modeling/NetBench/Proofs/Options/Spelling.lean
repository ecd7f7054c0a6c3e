import NetBench.Options.Reader

/-! How options are written: the spellings of an option with its value, and lines made of spellings.
No argument starts with two options, so a line can be taken apart in one way only. -/
namespace NetBench
open Text

/-- A text that may stand as an argument without being an option. -/
def Standalone (s : String) : Prop := s.toList.head? = some '-' → s = "-"

/-- The ways to write that option `o` has the value `s`. -/
inductive Spells (o : Opt) (s : String) : List String → Prop where
  | long (hs : Standalone s) : Spells o s ["--" ++ o.long, s]
  | longEquals : Spells o s ["--" ++ o.long ++ "=" ++ s]
  | letter {c : Char} (hc : o.letter = some c) (hs : Standalone s) :
      Spells o s [String.ofList ['-', c], s]
  | letterEquals {c : Char} (hc : o.letter = some c) :
      Spells o s [String.ofList ['-', c] ++ "=" ++ s]
  | letterJoined {c : Char} (hc : o.letter = some c) (hne : s ≠ "") (hs : s.toList.head? ≠ some '=') :
      Spells o s [String.ofList ['-', c] ++ s]

/-- Arguments that give texts to options, one after the other. Two dashes may stand at the end. -/
inductive Spelled : List (Opt × String) → List String → Prop where
  | nil : Spelled [] []
  | escape : Spelled [] ["--"]
  | cons {o : Opt} {s : String} {gifts : List (Opt × String)} {front back : List String}
      (h : Spells o s front) (hb : Spelled gifts back) : Spelled ((o, s) :: gifts) (front ++ back)

theorem Text.cut_append {sep : Char} {front : List Char} (h : sep ∉ front)
    (back : Option (List Char)) : cut sep (front ++ back.elim [] (sep :: ·)) = (front, back) := by
  induction front with
  | nil => cases back <;> simp [cut]
  | cons c front ih =>
    have hc : c ≠ sep := fun hc => h (hc ▸ .head _)
    have hfront : sep ∉ front := fun hf => h (.tail _ hf)
    simp [cut, hc, ih hfront]

theorem Text.append_cut (sep : Char) (cs : List Char) :
    (cut sep cs).1 ++ (cut sep cs).2.elim [] (sep :: ·) = cs := by
  induction cs with
  | nil => rfl
  | cons c cs ih =>
    unfold cut
    split
    · rename_i hc
      rw [hc]
      rfl
    · exact congrArg (c :: ·) ih

namespace Argument
variable {a : String} {c : Char} {cs : List Char}

theorem ofString_long (h : a.toList = '-' :: '-' :: cs) (hne : cs ≠ []) :
    ofString a = .long (cut '=' cs).1 (cut '=' cs).2 := by
  cases cs with
  | nil => exact absurd rfl hne
  | cons c cs => simp only [ofString, h]

theorem ofString_short (h : a.toList = '-' :: c :: cs) (hc : c ≠ '-') : ofString a = .short c cs := by
  unfold ofString
  rw [h]
  split <;> simp_all

theorem ofString_plain (h : Standalone a) : ofString a = .plain := by
  have hdash : ∀ c cs, a.toList ≠ '-' :: c :: cs := by
    intro c cs ha
    rw [h (by rw [ha]; rfl)] at ha
    cases ha
  unfold ofString
  split
  · rename_i ha
    exact absurd ha (hdash _ _)
  · rename_i ha
    exact absurd ha (hdash _ _)
  · rename_i ha
    exact absurd ha (hdash _ _)
  · rfl

/-- What an argument of each kind looks like. -/
inductive Shape (a : String) : Argument → Prop where
  | escape (h : a = "--") : Shape a .escape
  | long {cs : List Char} (h : a.toList = '-' :: '-' :: cs) :
      Shape a (.long (cut '=' cs).1 (cut '=' cs).2)
  | short {c : Char} {cs : List Char} (h : a.toList = '-' :: c :: cs) : Shape a (.short c cs)
  | plain (h : Standalone a) : Shape a .plain

theorem shape (a : String) : Shape a (ofString a) := by
  cases h : a.toList with
  | nil =>
    have hplain : Standalone a := by simp [Standalone, h]
    rw [ofString_plain hplain]
    exact .plain hplain
  | cons d ds =>
    by_cases hd : d = '-'
    · subst hd
      cases ds with
      | nil =>
        have hplain : Standalone a := fun _ => String.toList_inj.mp h
        rw [ofString_plain hplain]
        exact .plain hplain
      | cons c cs =>
        by_cases hc : c = '-'
        · subst hc
          cases cs with
          | nil =>
            obtain rfl : a = "--" := String.toList_inj.mp h
            exact .escape rfl
          | cons e es =>
            rw [ofString_long h (List.cons_ne_nil e es)]
            exact .long h
        · rw [ofString_short h hc]
          exact .short h
    · have hplain : Standalone a := by simp [Standalone, h, hd]
      rw [ofString_plain hplain]
      exact .plain hplain

theorem toList_of_long {name : List Char} {value : Option (List Char)}
    (h : ofString a = .long name value) :
    a.toList = '-' :: '-' :: (name ++ value.elim [] ('=' :: ·)) := by
  have hshape := shape a
  rw [h] at hshape
  cases hshape with
  | @long cs ha => rw [ha, append_cut]

theorem toList_of_short (h : ofString a = .short c cs) : a.toList = '-' :: c :: cs := by
  have hshape := shape a
  rw [h] at hshape
  cases hshape with
  | short ha => exact ha

end Argument

namespace Opt

theorem ofLong?_long (o : Opt) : Target.ofLong? o.long.toList = some (.opt o) := by
  cases o <;> decide

theorem ofLetter?_letter {o : Opt} {c : Char} (h : o.letter = some c) :
    Target.ofLetter? c = some (.opt o) := by
  cases o <;> cases h <;> decide

theorem long_of_ofLong? {o : Opt} {name : List Char} (h : Target.ofLong? name = some (.opt o)) :
    name = o.long.toList := by
  unfold Target.ofLong? at h
  split at h
  · cases h
  · split at h
    · cases h
    · obtain ⟨found, hfound, ho⟩ := Option.map_eq_some_iff.mp h
      obtain rfl : found = o := Target.opt.inj ho
      have hname : found.long.toList = name := by simpa using List.find?_some hfound
      exact hname.symm

theorem letter_of_ofLetter? {o : Opt} {c : Char} (h : Target.ofLetter? c = some (.opt o)) :
    o.letter = some c := by
  unfold Target.ofLetter? at h
  split at h
  · cases h
  · split at h
    · cases h
    · obtain ⟨found, hfound, ho⟩ := Option.map_eq_some_iff.mp h
      obtain rfl : found = o := Target.opt.inj ho
      simpa using List.find?_some hfound

end Opt

/-- What may be joined to a letter: nothing, or a value with or without the sign. -/
def joined? : List Char → Option String
  | [] => none
  | '=' :: v => some (String.ofList v)
  | v => some (String.ofList v)

def opening? (a : String) : Option (Opt × Option String) :=
  match Argument.ofString a with
  | .long name value => match Target.ofLong? name with
    | some (.opt o) => some (o, value.map String.ofList)
    | _ => none
  | .short c cs => match Target.ofLetter? c with
    | some (.opt o) => some (o, joined? cs)
    | _ => none
  | _ => none

theorem joined?_cons {c : Char} (hc : c ≠ '=') (cs : List Char) :
    joined? (c :: cs) = some (String.ofList (c :: cs)) := by
  unfold joined?
  split
  · rename_i heq
    cases heq
  · rename_i heq
    exact absurd (List.cons.inj heq).1 hc
  · rfl

theorem joined?_eq_none_iff {cs : List Char} : joined? cs = none ↔ cs = [] := by
  cases cs with
  | nil => exact iff_of_true rfl rfl
  | cons c cs =>
    by_cases hc : c = '='
    · subst hc
      simp [joined?]
    · simp [joined?_cons hc]

theorem joined?_eq_some_iff {cs : List Char} {s : String} :
    joined? cs = some s ↔ cs = '=' :: s.toList ∨ cs = s.toList ∧ s ≠ "" ∧ s.toList.head? ≠ some '=' := by
  have hs : ∀ cs : List Char, String.ofList cs = s ↔ cs = s.toList := by
    intro cs
    rw [← String.toList_inj, String.toList_ofList]
  cases cs with
  | nil =>
    have hempty : [] = s.toList ↔ s = "" := by rw [← hs, eq_comm]
    simp only [joined?, hempty, reduceCtorEq, false_or, false_iff]
    exact fun h => h.2.1 h.1
  | cons c cs =>
    by_cases hc : c = '='
    · subst hc
      simp only [joined?, Option.some.injEq, hs, List.cons.injEq, true_and]
      constructor
      · exact .inl
      · rintro (h | ⟨h, _, hhead⟩)
        · exact h
        · exact absurd (by rw [← h]; rfl) hhead
    · rw [joined?_cons hc, Option.some.injEq, hs]
      constructor
      · intro h
        refine .inr ⟨h, ?_, ?_⟩
        · rintro rfl
          cases h
        · rw [← h]
          simpa using hc
      · rintro (h | ⟨h, -⟩)
        · exact absurd (List.cons.inj h).1 hc
        · exact h

theorem opening_cases {a : String} {o : Opt} {v? : Option String} (h : opening? a = some (o, v?)) :
    (∃ name value, Argument.ofString a = .long name value ∧ Target.ofLong? name = some (.opt o) ∧
        value.map String.ofList = v?) ∨
      ∃ c cs, Argument.ofString a = .short c cs ∧ Target.ofLetter? c = some (.opt o) ∧
        joined? cs = v? := by
  unfold opening? at h
  split at h
  · rename_i name value ha
    split at h
    · rename_i o' ht
      obtain ⟨rfl, rfl⟩ := Prod.mk.inj (Option.some.inj h)
      exact .inl ⟨name, value, ha, ht, rfl⟩
    · cases h
  · rename_i c cs ha
    split at h
    · rename_i o' ht
      obtain ⟨rfl, rfl⟩ := Prod.mk.inj (Option.some.inj h)
      exact .inr ⟨c, cs, ha, ht, rfl⟩
    · cases h
  · cases h

/-- An argument starts with an option by its long name or by its letter. -/
theorem opening?_eq_some_iff {a : String} {o : Opt} {v? : Option String} :
    opening? a = some (o, v?) ↔
      a.toList = '-' :: '-' :: (o.long.toList ++ (v?.map String.toList).elim [] ('=' :: ·)) ∨
        ∃ c cs, o.letter = some c ∧ a.toList = '-' :: c :: cs ∧ joined? cs = v? := by
  constructor
  · intro h
    rcases opening_cases h with ⟨name, value, ha, ht, rfl⟩ | ⟨c, cs, ha, ht, hj⟩
    · left
      rw [Argument.toList_of_long ha, Opt.long_of_ofLong? ht]
      cases value <;> simp
    · exact .inr ⟨c, cs, Opt.letter_of_ofLetter? ht, Argument.toList_of_short ha, hj⟩
  · rintro (ha | ⟨c, cs, hc, ha, rfl⟩)
    · have hlong := Argument.ofString_long ha (by cases o <;> simp [Opt.long])
      rw [cut_append (by cases o <;> decide)] at hlong
      simp only [opening?, hlong, Opt.ofLong?_long, Option.map_map]
      cases v? <;> simp
    · have hshort := Argument.ofString_short ha (by rintro rfl; cases o <;> cases hc)
      simp only [opening?, hshort, Opt.ofLetter?_letter hc]

/-- What starts with an option gives it the value that is joined to it, or the argument after it. -/
theorem spells_iff {o : Opt} {s : String} {front : List String} :
    Spells o s front ↔ (∃ a, front = [a] ∧ opening? a = some (o, some s)) ∨
      ∃ a, front = [a, s] ∧ opening? a = some (o, none) ∧ Standalone s := by
  constructor
  · intro h
    cases h with
    | long hs =>
      exact .inr ⟨_, rfl, opening?_eq_some_iff.mpr (.inl (by simp)), hs⟩
    | longEquals =>
      exact .inl ⟨_, rfl, opening?_eq_some_iff.mpr (.inl (by simp))⟩
    | @letter c hc hs =>
      exact .inr ⟨_, rfl, opening?_eq_some_iff.mpr (.inr ⟨c, [], hc, by simp, rfl⟩), hs⟩
    | @letterEquals c hc =>
      have hj : joined? ('=' :: s.toList) = some s := joined?_eq_some_iff.mpr (.inl rfl)
      exact .inl ⟨_, rfl, opening?_eq_some_iff.mpr (.inr ⟨c, _, hc, by simp, hj⟩)⟩
    | @letterJoined c hc hne hs =>
      have hj : joined? s.toList = some s := joined?_eq_some_iff.mpr (.inr ⟨rfl, hne, hs⟩)
      exact .inl ⟨_, rfl, opening?_eq_some_iff.mpr (.inr ⟨c, _, hc, by simp, hj⟩)⟩
  · rintro (⟨a, rfl, ha⟩ | ⟨a, rfl, ha, hs⟩)
    · rcases opening?_eq_some_iff.mp ha with ha | ⟨c, cs, hc, ha, hj⟩
      · obtain rfl : a = "--" ++ o.long ++ "=" ++ s := String.toList_inj.mp (by simpa using ha)
        exact .longEquals
      · rcases joined?_eq_some_iff.mp hj with rfl | ⟨rfl, hne, hs⟩
        · obtain rfl : a = String.ofList ['-', c] ++ "=" ++ s := String.toList_inj.mp (by simpa using ha)
          exact .letterEquals hc
        · obtain rfl : a = String.ofList ['-', c] ++ s := String.toList_inj.mp (by simpa using ha)
          exact .letterJoined hc hne hs
    · rcases opening?_eq_some_iff.mp ha with ha | ⟨c, cs, hc, ha, hj⟩
      · obtain rfl : a = "--" ++ o.long := String.toList_inj.mp (by simpa using ha)
        exact .long hs
      · obtain rfl := joined?_eq_none_iff.mp hj
        obtain rfl : a = String.ofList ['-', c] := String.toList_inj.mp (by simpa using ha)
        exact .letter hc hs

theorem not_standalone {a : String} {o : Opt} {v? : Option String} (h : opening? a = some (o, v?)) :
    ¬Standalone a := by
  intro hs
  simp only [opening?, Argument.ofString_plain hs] at h
  cases h

/-- Two spellings at the front of the same arguments are the same. -/
theorem Spells.unique {o o' : Opt} {s s' : String} {front front' back back' : List String}
    (h : Spells o s front) (h' : Spells o' s' front') (he : front ++ back = front' ++ back') :
    (o, s) = (o', s') ∧ back = back' := by
  rcases spells_iff.mp h with ⟨a, rfl, ha⟩ | ⟨a, rfl, ha, -⟩
  · rcases spells_iff.mp h' with ⟨a', rfl, ha'⟩ | ⟨a', rfl, ha', -⟩
    · obtain ⟨rfl, rfl⟩ := List.cons.inj he
      obtain ⟨rfl, hs⟩ := Prod.mk.inj (Option.some.inj (ha.symm.trans ha'))
      obtain rfl := Option.some.inj hs
      exact ⟨rfl, rfl⟩
    · obtain ⟨rfl, -⟩ := List.cons.inj he
      cases ha.symm.trans ha'
  · rcases spells_iff.mp h' with ⟨a', rfl, ha'⟩ | ⟨a', rfl, ha', -⟩
    · obtain ⟨rfl, -⟩ := List.cons.inj he
      cases ha.symm.trans ha'
    · obtain ⟨rfl, htail⟩ := List.cons.inj he
      obtain ⟨rfl, rfl⟩ := List.cons.inj htail
      obtain ⟨rfl, -⟩ := Prod.mk.inj (Option.some.inj (ha.symm.trans ha'))
      exact ⟨rfl, rfl⟩

theorem Spells.opens {o : Opt} {s : String} {piece : List String} (h : Spells o s piece) :
    ∃ a tail v?, piece = a :: tail ∧ opening? a = some (o, v?) := by
  rcases spells_iff.mp h with ⟨a, rfl, ha⟩ | ⟨a, rfl, ha, -⟩
  · exact ⟨a, [], _, rfl, ha⟩
  · exact ⟨a, [s], _, rfl, ha⟩

/-- A spelling in the midst of others is one of them. -/
theorem Spelled.cut {gifts : List (Opt × String)} {front piece back : List String} {o : Opt} {s : String}
    (hp : Spells o s piece) (h : Spelled gifts (front ++ piece ++ back)) :
    ∃ before after, gifts = before ++ (o, s) :: after ∧ Spelled (before ++ after) (front ++ back) := by
  obtain ⟨a, tail, v?, hpiece, ha⟩ := hp.opens
  generalize hargs : front ++ piece ++ back = args at h
  induction h generalizing front with
  | nil => simp [hpiece] at hargs
  | escape =>
    have hescape : opening? "--" = none := by decide
    cases front with
    | nil =>
      rw [hpiece] at hargs
      obtain ⟨rfl, -⟩ := List.cons.inj hargs
      cases ha.symm.trans hescape
    | cons f front => simp [hpiece] at hargs
  | @cons o' s' gifts' first left hfirst hleft ih =>
    cases front with
    | nil =>
      obtain ⟨hgift, rfl⟩ := hp.unique hfirst hargs
      exact ⟨[], gifts', by rw [hgift]; rfl, hleft⟩
    | cons f front =>
      rcases spells_iff.mp hfirst with ⟨b, rfl, -⟩ | ⟨b, rfl, -, hs⟩
      · obtain ⟨rfl, hleft⟩ := List.cons.inj hargs
        obtain ⟨before, after, rfl, hsp⟩ := ih hleft
        have hcons := Spelled.cons hfirst hsp
        exact ⟨(o', s') :: before, after, rfl, hcons⟩
      · obtain ⟨rfl, htail⟩ := List.cons.inj hargs
        cases front with
        | nil =>
          -- A value that stands apart is no option.
          rw [hpiece] at htail
          obtain ⟨rfl, -⟩ := List.cons.inj htail
          exact absurd hs (not_standalone ha)
        | cons g front =>
          obtain ⟨rfl, hleft⟩ := List.cons.inj htail
          obtain ⟨before, after, rfl, hsp⟩ := ih hleft
          have hcons := Spelled.cons hfirst hsp
          exact ⟨(o', g) :: before, after, rfl, hcons⟩

end NetBench
