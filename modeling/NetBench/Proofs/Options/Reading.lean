import NetBench.Proofs.Options.Spelling

/-! Reading what is spelled. A command line that is accepted is one spelling after another, and what
it gives is what it spells. -/
namespace NetBench

theorem bind_eq_ok_iff {ε α β : Type} {x : Except ε α} {f : α → Except ε β} {b : β} :
    (x >>= f) = .ok b ↔ ∃ a, x = .ok a ∧ f a = .ok b := by
  cases x with
  | error e => exact iff_of_false nofun nofun
  | ok a => simp [bind, Except.bind]

namespace CommandLine
variable {line out : CommandLine} {pending : Pending} {a : String} {left : List String} {o : Opt}

theorem readFrom_joined {v : String} (h : opening? a = some (o, some v)) :
    readFrom line pending (a :: left) =
      (line.settle pending >>= fun line => line.give o v >>= fun line =>
        readFrom line .nothing left) := by
  rw [readFrom.eq_def]
  rcases opening_cases h with ⟨name, value, ha, ht, hv⟩ | ⟨c, cs, ha, ht, hj⟩
  · obtain ⟨w, rfl, rfl⟩ := Option.map_eq_some_iff.mp hv
    simp only [ha, ht]
  · cases cs with
    | nil => cases hj
    | cons d ds =>
      by_cases hd : d = '='
      · subst hd
        obtain rfl := Option.some.inj hj
        simp only [ha, ht]
      · obtain rfl := Option.some.inj ((joined?_cons hd ds).symm.trans hj)
        simp only [ha, ht]
        split <;> simp_all

theorem readFrom_apart (h : opening? a = some (o, none)) :
    readFrom line pending (a :: left) =
      (line.settle pending >>= fun line => readFrom line (.awaiting o) left) := by
  rw [readFrom.eq_def]
  rcases opening_cases h with ⟨name, value, ha, ht, hv⟩ | ⟨c, cs, ha, ht, hj⟩
  · obtain rfl := Option.map_eq_none_iff.mp hv
    simp only [ha, ht]
  · obtain rfl := joined?_eq_none_iff.mp hj
    simp only [ha, ht]

theorem readFrom_standalone (h : Standalone a) :
    readFrom line (.awaiting o) (a :: left) = readFrom line (.holding o a) left := by
  rw [readFrom.eq_def]
  simp only [Argument.ofString_plain h]

theorem readFrom_escape : readFrom line pending ["--"] = line.settle pending := by
  have hescape : Argument.ofString "--" = .escape := by decide
  rw [readFrom.eq_def]
  simp only [hescape]

private theorem settle_error {why : Refusal} :
    (line.settle pending >>= fun _ => (.error why : Except Refusal CommandLine)) ≠ .ok out := by
  cases line.settle pending <;> nofun

/-- What is read on from is the end, a value that was waited for, or an option. -/
theorem readFrom_cons (h : readFrom line pending (a :: left) = .ok out) :
    (a = "--" ∧ left = []) ∨ (Standalone a ∧ ∃ o, pending = .awaiting o) ∨
      ∃ o v?, opening? a = some (o, v?) := by
  have hshape := Argument.shape a
  rw [readFrom.eq_def] at h
  cases ha : Argument.ofString a with
  | escape =>
    rw [ha] at hshape
    cases hshape with
    | escape heq =>
      cases left with
      | nil => exact .inl ⟨heq, rfl⟩
      | cons b left =>
        simp only [ha] at h
        cases h
  | plain =>
    rw [ha] at hshape
    cases hshape with
    | plain hs =>
      cases pending with
      | awaiting o => exact .inr (.inl ⟨hs, o, rfl⟩)
      | nothing | holding =>
        simp only [ha] at h
        cases h
  | long name value =>
    cases ht : Target.ofLong? name with
    | none =>
      simp only [ha, ht] at h
      cases h
    | some t =>
      cases t with
      | opt o => exact .inr (.inr ⟨o, value.map String.ofList, by simp only [opening?, ha, ht]⟩)
      | help | version =>
        cases value with
        | none =>
          simp only [ha, ht] at h
          exact absurd h settle_error
        | some v =>
          simp only [ha, ht] at h
          cases h
  | short c cs =>
    cases ht : Target.ofLetter? c with
    | none =>
      simp only [ha, ht] at h
      cases h
    | some t =>
      cases t with
      | opt o => exact .inr (.inr ⟨o, joined? cs, by simp only [opening?, ha, ht]⟩)
      | help | version =>
        simp only [ha, ht] at h
        exact absurd h settle_error

def giveAll (line : CommandLine) (gifts : List (Opt × String)) : Except Refusal CommandLine :=
  gifts.foldlM (fun line gift => line.give gift.1 gift.2) line

theorem give_eq_ok_iff {s : String} :
    line.give o s = .ok out ↔ line o = none ∧ ∃ v, o.kind.read? s = some v ∧ out = line.set o v := by
  unfold give Opt.read
  cases hl : line o with
  | some v => simp
  | none =>
    cases hr : o.kind.read? s with
    | none => simp [bind, Except.bind]
    | some v => simp [bind, Except.bind, pure, Except.pure, eq_comm]

variable {gifts : List (Opt × String)} {args : List String}

/-- What was spelled is read by settling what is pending, and giving one text after the other. -/
theorem readFrom_spelled (h : Spelled gifts args) :
    readFrom line pending args = .ok out ↔
      ∃ settled, line.settle pending = .ok settled ∧ settled.giveAll gifts = .ok out := by
  induction h generalizing line pending with
  | nil => simp [readFrom, giveAll, pure, Except.pure]
  | escape => simp [readFrom_escape, giveAll, pure, Except.pure]
  | @cons o s gifts front back h _ ih =>
    have hgive : ∀ line : CommandLine, line.giveAll ((o, s) :: gifts) = .ok out ↔
        ∃ given, line.give o s = .ok given ∧ given.giveAll gifts = .ok out := by
      intro line
      rw [giveAll, List.foldlM_cons, bind_eq_ok_iff]
      rfl
    simp only [hgive]
    rcases spells_iff.mp h with ⟨a, rfl, ha⟩ | ⟨a, rfl, ha, hs⟩
    · rw [List.singleton_append, readFrom_joined ha]
      simp only [bind_eq_ok_iff, ih, settle, Except.ok.injEq, exists_eq_left']
    · rw [List.cons_append, List.singleton_append, readFrom_apart ha]
      simp only [bind_eq_ok_iff, readFrom_standalone hs, ih]
      rfl

/-- Whatever is read to its end was spelled, after the value that is waited for. -/
theorem spelled_of_readFrom (h : readFrom line pending args = .ok out) :
    match pending with
    | .awaiting _ => ∃ s back gifts, args = s :: back ∧ Standalone s ∧ Spelled gifts back
    | _ => ∃ gifts, Spelled gifts args := by
  induction args generalizing line pending with
  | nil =>
    cases pending with
    | awaiting o => cases h
    | nothing | holding => exact ⟨[], .nil⟩
  | cons a left ih =>
    rcases readFrom_cons h with ⟨rfl, rfl⟩ | ⟨hs, o, rfl⟩ | ⟨o, v?, ha⟩
    · rw [readFrom_escape] at h
      cases pending with
      | awaiting o => cases h
      | nothing | holding => exact ⟨[], .escape⟩
    · rw [readFrom_standalone hs] at h
      obtain ⟨gifts, hg⟩ := ih h
      exact ⟨a, left, gifts, rfl, hs, hg⟩
    · have hback : (∃ settled, line.settle pending = .ok settled) ∧
          ∃ gifts, Spelled gifts (a :: left) := by
        cases v? with
        | some v =>
          rw [readFrom_joined ha] at h
          obtain ⟨settled, hsettled, h⟩ := bind_eq_ok_iff.mp h
          obtain ⟨given, _, h⟩ := bind_eq_ok_iff.mp h
          obtain ⟨gifts, hg⟩ := ih h
          exact ⟨⟨settled, hsettled⟩, (o, v) :: gifts, .cons (spells_iff.mpr (.inl ⟨a, rfl, ha⟩)) hg⟩
        | none =>
          rw [readFrom_apart ha] at h
          obtain ⟨settled, hsettled, h⟩ := bind_eq_ok_iff.mp h
          obtain ⟨s, back, gifts, rfl, hs, hg⟩ := ih h
          exact ⟨⟨settled, hsettled⟩, (o, s) :: gifts,
            .cons (spells_iff.mpr (.inr ⟨a, rfl, ha, hs⟩)) hg⟩
      obtain ⟨⟨settled, hsettled⟩, hg⟩ := hback
      cases pending with
      | awaiting o => cases hsettled
      | nothing | holding => exact hg

/-- A line holds what it held before, and the values of the texts that it was given. -/
theorem giveAll_eq_ok (h : line.giveAll gifts = .ok out) (o : Opt) (v : o.Value) :
    out o = some v ↔ line o = some v ∨ ∃ s, (o, s) ∈ gifts ∧ o.kind.read? s = some v := by
  induction gifts generalizing line with
  | nil =>
    obtain rfl : line = out := Except.ok.inj h
    simp
  | cons gift gifts ih =>
    obtain ⟨given, hgive, h⟩ := bind_eq_ok_iff.mp h
    obtain ⟨hfree, w, hw, rfl⟩ := give_eq_ok_iff.mp hgive
    rw [ih h]
    by_cases ho : o = gift.1
    · subst ho
      have hgift : ∀ s, (gift.1, s) ∈ gift :: gifts ↔ s = gift.2 ∨ (gift.1, s) ∈ gifts := by
        intro s
        rw [List.mem_cons, Prod.ext_iff]
        simp
      simp [hgift, hfree, or_and_right, exists_or, hw]
    · have hgift : ∀ s, (o, s) ∈ gift :: gifts ↔ (o, s) ∈ gifts := by
        intro s
        rw [List.mem_cons, Prod.ext_iff]
        simp [ho]
      simp [hgift, ho]

theorem readable_of_giveAll (h : line.giveAll gifts = .ok out) {s : String} (hs : (o, s) ∈ gifts) :
    ∃ v, o.kind.read? s = some v := by
  induction gifts generalizing line with
  | nil => cases hs
  | cons gift gifts ih =>
    obtain ⟨given, hgive, h⟩ := bind_eq_ok_iff.mp h
    cases hs with
    | head =>
      obtain ⟨-, v, hv, -⟩ := give_eq_ok_iff.mp hgive
      exact ⟨v, hv⟩
    | tail _ hs => exact ih h hs

end CommandLine

/-- The arguments give an option a value. -/
def Gives (args : List String) (o : Opt) (v : o.Value) : Prop :=
  ∃ gifts s, Spelled gifts args ∧ (o, s) ∈ gifts ∧ o.kind.read? s = some v

namespace CommandLine
variable {line : CommandLine} {args : List String} {gifts : List (Opt × String)}

theorem spelled_of_read (h : read args = .ok line) : ∃ gifts, Spelled gifts args := by
  have hfrom : readFrom empty .nothing args = .ok line := h
  exact spelled_of_readFrom hfrom

private theorem giveAll_of_read (h : read args = .ok line) (hg : Spelled gifts args) :
    empty.giveAll gifts = .ok line := by
  obtain ⟨settled, hsettled, hall⟩ := (readFrom_spelled hg).mp h
  obtain rfl : empty = settled := Except.ok.inj hsettled
  exact hall

/-- What an accepted line holds, out of any way to see it as spelled. -/
theorem read_spelled (h : read args = .ok line) (hg : Spelled gifts args) (o : Opt) (v : o.Value) :
    line o = some v ↔ ∃ s, (o, s) ∈ gifts ∧ o.kind.read? s = some v := by
  rw [giveAll_eq_ok (giveAll_of_read h hg)]
  simp [empty]

theorem read_mem (h : read args = .ok line) (hg : Spelled gifts args) {o : Opt} {s : String}
    (hs : (o, s) ∈ gifts) : ∃ v, o.kind.read? s = some v ∧ line o = some v := by
  obtain ⟨v, hv⟩ := readable_of_giveAll (giveAll_of_read h hg) hs
  exact ⟨v, hv, (read_spelled h hg o v).mpr ⟨s, hs, hv⟩⟩

/-- An accepted line holds what its arguments give. -/
theorem read_gives (h : read args = .ok line) (o : Opt) (v : o.Value) :
    line o = some v ↔ Gives args o v := by
  constructor
  · intro hv
    obtain ⟨gifts, hg⟩ := spelled_of_read h
    obtain ⟨s, hs, hr⟩ := (read_spelled h hg o v).mp hv
    exact ⟨gifts, s, hg, hs, hr⟩
  · rintro ⟨gifts, s, hg, hs, hr⟩
    exact (read_spelled h hg o v).mpr ⟨s, hs, hr⟩

end CommandLine

/-- One more option on a line has the value of its text, and changes no other. -/
theorem CommandLine.read_insert {line more : CommandLine} {front piece back : List String} {o : Opt}
    {s : String} (hp : Spells o s piece) (h : read (front ++ back) = .ok line)
    (hm : read (front ++ piece ++ back) = .ok more) :
    (∃ v, o.kind.read? s = some v ∧ more o = some v) ∧ ∀ p, p ≠ o → more p = line p := by
  obtain ⟨gifts, hg⟩ := spelled_of_read hm
  obtain ⟨before, after, rfl, hless⟩ := hg.cut hp
  refine ⟨read_mem hm hg (by simp), ?_⟩
  intro p hpo
  ext v
  rw [read_spelled hm hg, read_spelled h hless]
  have hmem : ∀ t, (p, t) ∈ before ++ (o, s) :: after ↔ (p, t) ∈ before ++ after := by
    intro t
    simp [hpo]
  simp only [hmem]

end NetBench
