import Mathlib.Tactic.IntervalCases
import NetBench.Text.Numeral

/-! Decimal numerals. What reads as a number is the digits of that number behind zeros, however
many, and nothing else. -/
namespace NetBench.Text
variable {c : Char} {cs : List Char} {n : Nat}

theorem decimalDigit?_cases (c : Char) :
    (∃ d, d < 10 ∧ c = d.digitChar ∧ decimalDigit? c = some d) ∨
      c.isDigit = false ∧ decimalDigit? c = none := by
  by_cases hc : c.isDigit
  · left
    obtain ⟨hlow, hhigh⟩ : 48 ≤ c.toNat ∧ c.toNat ≤ 57 := Char.isDigit_iff_toNat.mp hc
    obtain ⟨d, hd⟩ := Nat.exists_eq_add_of_le hlow
    have hlt : d < 10 := by omega
    obtain rfl : c = d.digitChar :=
      Char.toNat_inj.mp (hd.trans (Nat.toNat_digitChar_of_lt_ten hlt).symm)
    exact ⟨d, hlt, rfl, by interval_cases d <;> decide⟩
  · right
    have hrange : ¬('0' ≤ c ∧ c ≤ '9') := fun h => hc (Char.isDigit_iff_toNat.mpr h)
    exact ⟨by simpa using hc, by simp [decimalDigit?, hrange]⟩

theorem toDigits_inj {m n : Nat} (h : Nat.toDigits 10 m = Nat.toDigits 10 n) : m = n := by
  have hread : ∀ k, Nat.ofDigitChars 10 (Nat.toDigits 10 k) 0 = k := fun k =>
    Nat.ofDigitChars_toDigits (by decide) (by decide)
  rw [← hread m, h, hread]

theorem zero_of_toDigits (h : Nat.toDigits 10 n = '0' :: cs) : n = 0 := by
  induction n using Nat.strong_induction_on generalizing cs with
  | _ n ih =>
    rcases Nat.lt_or_ge n 10 with hn | hn
    · rw [Nat.toDigits_of_lt_base hn] at h
      have hzero : n.digitChar = '0' := (List.cons.inj h).1
      interval_cases n <;> first | rfl | exact absurd hzero (by decide)
    · rw [Nat.toDigits_of_base_le (by decide) hn] at h
      cases hfront : Nat.toDigits 10 (n / 10) with
      | nil => exact absurd hfront Nat.toDigits_ne_nil
      | cons c cs' =>
        rw [hfront] at h
        obtain rfl : c = '0' := (List.cons.inj h).1
        have := ih (n / 10) (by omega) hfront
        omega

/-- Reading on behind a number other than zero adds the digits to those of the number. -/
theorem digitsFrom?_eq_some_iff {acc : Nat} (hacc : 0 < acc) :
    digitsFrom? 10 decimalDigit? acc cs = some n ↔ Nat.toDigits 10 acc ++ cs = Nat.toDigits 10 n := by
  induction cs generalizing acc with
  | nil =>
    simp only [digitsFrom?, Option.some.injEq, List.append_nil]
    exact ⟨congrArg _, toDigits_inj⟩
  | cons c cs ih =>
    rcases decimalDigit?_cases c with ⟨d, hd, rfl, hread⟩ | ⟨hdigit, hread⟩
    · have hmore : Nat.toDigits 10 acc ++ [d.digitChar] = Nat.toDigits 10 (acc * 10 + d) := by
        rw [← Nat.toDigits_of_lt_base hd, Nat.toDigits_append_toDigits (by decide) hacc hd,
          Nat.mul_comm]
      rw [List.append_cons, hmore, ← ih (by omega)]
      simp [digitsFrom?, hread]
    · simp only [digitsFrom?, hread]
      refine iff_of_false (by simp) fun h => ?_
      have hmem : c ∈ Nat.toDigits 10 n := by simp [← h]
      exact absurd (Nat.isDigit_of_mem_toDigits (by decide) (by decide) hmem) (by simp [hdigit])

/-- The digits of a number, behind any number of zeros. -/
def Numeral (n : Nat) (cs : List Char) : Prop :=
  ∃ zeros, cs = List.replicate zeros '0' ++ Nat.toDigits 10 n

theorem Numeral.isDigit (h : Numeral n cs) : ∀ c ∈ cs, c.isDigit = true := by
  obtain ⟨zeros, rfl⟩ := h
  intro c hc
  rcases List.mem_append.mp hc with hc | hc
  · rw [List.eq_of_mem_replicate hc]
    decide
  · exact Nat.isDigit_of_mem_toDigits (by decide) (by decide) hc

theorem numeral_zero_cons : Numeral n ('0' :: cs) ↔ (cs = [] ∧ n = 0) ∨ Numeral n cs := by
  constructor
  · rintro ⟨zeros, hz⟩
    cases zeros with
    | zero =>
      obtain rfl := zero_of_toDigits hz.symm
      rw [Nat.toDigits_zero] at hz
      exact .inl ⟨(List.cons.inj hz).2, rfl⟩
    | succ zeros => exact .inr ⟨zeros, (List.cons.inj hz).2⟩
  · rintro (⟨rfl, rfl⟩ | ⟨zeros, rfl⟩)
    · exact ⟨0, by rw [Nat.toDigits_zero]; rfl⟩
    · exact ⟨zeros + 1, rfl⟩

theorem numeral_cons (hc : c ≠ '0') : Numeral n (c :: cs) ↔ c :: cs = Nat.toDigits 10 n := by
  refine ⟨?_, fun h => ⟨0, h⟩⟩
  rintro ⟨zeros, hz⟩
  cases zeros with
  | zero => exact hz
  | succ zeros => exact absurd (List.cons.inj hz).1 hc

theorem decimal?_eq_some_iff : decimal? cs = some n ↔ Numeral n cs := by
  induction cs with
  | nil =>
    refine iff_of_false (by simp [decimal?, number?]) ?_
    rintro ⟨zeros, hz⟩
    exact Nat.toDigits_ne_nil (List.append_eq_nil_iff.mp hz.symm).2
  | cons c cs ih =>
    rcases decimalDigit?_cases c with ⟨d, hd, rfl, hread⟩ | ⟨hdigit, hread⟩
    · have hfirst : decimal? (d.digitChar :: cs) = digitsFrom? 10 decimalDigit? d cs := by
        simp [decimal?, number?, digitsFrom?, hread]
      rw [hfirst]
      rcases Nat.eq_zero_or_pos d with rfl | hpos
      · have hzero : Nat.digitChar 0 = '0' := rfl
        rw [hzero, numeral_zero_cons, ← ih]
        cases cs <;> simp [decimal?, number?, digitsFrom?, eq_comm]
      · have hne : d.digitChar ≠ '0' := by interval_cases d <;> decide
        rw [digitsFrom?_eq_some_iff hpos, numeral_cons hne, Nat.toDigits_of_lt_base hd]
        rfl
    · refine iff_of_false (by simp [decimal?, number?, digitsFrom?, hread]) fun h => ?_
      exact absurd (h.isDigit c (.head _)) (by simp [hdigit])

/-- The digits of a number are the numeral without a zero in front of others. -/
theorem eq_toDigits_iff :
    cs = Nat.toDigits 10 n ↔ Numeral n cs ∧ ¬(1 < cs.length ∧ cs.head? = some '0') := by
  constructor
  · rintro rfl
    refine ⟨⟨0, rfl⟩, ?_⟩
    rintro ⟨hlen, hhead⟩
    cases hd : Nat.toDigits 10 n with
    | nil => exact Nat.toDigits_ne_nil hd
    | cons c cs =>
      obtain rfl : c = '0' := by simpa [hd] using hhead
      obtain rfl := zero_of_toDigits hd
      exact absurd hlen (by decide)
  · rintro ⟨⟨zeros, rfl⟩, hzero⟩
    cases zeros with
    | zero => rfl
    | succ zeros =>
      have hpos : 0 < (Nat.toDigits 10 n).length := Nat.length_toDigits_pos
      refine absurd ⟨?_, rfl⟩ hzero
      rw [List.length_append, List.length_replicate]
      omega

end NetBench.Text
