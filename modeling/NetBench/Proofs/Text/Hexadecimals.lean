import Mathlib.Data.Nat.Digits.Defs
import Mathlib.Data.Nat.Digits.Lemmas
import Mathlib.Tactic.IntervalCases
import NetBench.Text.Numeral
import NetBench.Text.Quoted

/-! Hexadecimal numerals. Both cases of a digit read alike, and zeros in front do not count; a
number is written in lower case and without them. -/
namespace NetBench.Text
variable {c : Char} {cs : List Char} {d n : Nat} {ds : List Nat}

/-- A digit to base sixteen, of either case. -/
def HexDigit (c : Char) (d : Nat) : Prop := d < 16 ∧ (c = d.digitChar ∨ c = d.digitChar.toUpper)

/-- At least one digit to base sixteen, the first of them the most significant. -/
def Hexadecimal (n : Nat) (cs : List Char) : Prop :=
  cs ≠ [] ∧ ∃ ds, List.Forall₂ HexDigit cs ds ∧ Nat.ofDigits 16 ds.reverse = n

instance (c : Char) (d : Nat) : Decidable (HexDigit c d) := inferInstanceAs (Decidable (_ ∧ _))

theorem hexDigit?_eq_some_iff : hexDigit? c = some d ↔ HexDigit c d := by
  constructor
  · intro h
    have hascii : c.toNat < 128 := by
      have hrange : ('0' ≤ c ∧ c ≤ '9') ∨ ('a' ≤ c ∧ c ≤ 'f') ∨ ('A' ≤ c ∧ c ≤ 'F') := by
        by_contra hnot
        simp only [not_or] at hnot
        simp [hexDigit?, hnot] at h
      rcases hrange with ⟨-, hc⟩ | ⟨-, hc⟩ | ⟨-, hc⟩ <;> exact Nat.lt_of_le_of_lt hc (by decide)
    have hall : ∀ m < 128, ∀ d ∈ hexDigit? (Char.ofNat m), HexDigit (Char.ofNat m) d := by decide
    have hc := hall c.toNat hascii d
    rw [Char.ofNat_toNat] at hc
    exact hc h
  · rintro ⟨hd, rfl | rfl⟩ <;> interval_cases d <;> decide

/-- A digit is none of the marks that stand between numerals, and no blank. -/
theorem HexDigit.isAlphanum (h : HexDigit c d) : c.isAlphanum = true := by
  obtain ⟨hd, rfl | rfl⟩ := h <;> interval_cases d <;> decide

private theorem digitsFrom?_eq_some_iff_hex {acc : Nat} :
    digitsFrom? 16 hexDigit? acc cs = some n ↔
      ∃ ds, List.Forall₂ HexDigit cs ds ∧ ds.foldl (fun m d => d + 16 * m) acc = n := by
  induction cs generalizing acc with
  | nil => simp [digitsFrom?]
  | cons c cs ih =>
    constructor
    · intro h
      obtain ⟨d, hd, hrest⟩ := Option.bind_eq_some_iff.mp h
      obtain ⟨ds, hds, hn⟩ := ih.mp hrest
      refine ⟨d :: ds, .cons (hexDigit?_eq_some_iff.mp hd) hds, ?_⟩
      rwa [List.foldl_cons, Nat.add_comm, Nat.mul_comm]
    · rintro ⟨_, _ | ⟨hd, hds⟩, hn⟩
      refine Option.bind_eq_some_iff.mpr ⟨_, hexDigit?_eq_some_iff.mpr hd, ih.mpr ⟨_, hds, ?_⟩⟩
      rwa [List.foldl_cons, Nat.add_comm, Nat.mul_comm] at hn

private theorem ofDigits_reverse (ds : List Nat) :
    Nat.ofDigits 16 ds.reverse = ds.foldl (fun m d => d + 16 * m) 0 := by
  rw [Nat.ofDigits_eq_foldr, List.foldr_reverse]
  rfl

theorem number?_hex_eq_some_iff : number? 16 hexDigit? cs = some n ↔ Hexadecimal n cs := by
  cases cs with
  | nil => exact iff_of_false nofun fun h => h.1 rfl
  | cons c cs =>
    rw [number?, digitsFrom?_eq_some_iff_hex, Hexadecimal]
    simp only [ofDigits_reverse]
    exact (and_iff_right (List.cons_ne_nil c cs)).symm

theorem Hexadecimal.lt_pow (h : Hexadecimal n cs) : n < 16 ^ cs.length := by
  obtain ⟨-, ds, hds, rfl⟩ := h
  rw [hds.length_eq, ← List.length_reverse]
  obtain ⟨hsmall, -⟩ := (List.forall₂_and_left ds cs).mp hds.flip
  exact Nat.ofDigits_lt_base_pow_length (by decide) fun d hd => hsmall d (List.mem_reverse.mp hd)

theorem Hexadecimal.isAlphanum (h : Hexadecimal n cs) : ∀ c ∈ cs, c.isAlphanum = true := by
  obtain ⟨-, ds, hds, -⟩ := h
  exact ((List.forall₂_and_left cs ds).mp (hds.imp fun _ _ hd => ⟨hd.isAlphanum, hd⟩)).1

theorem hexadecimal_hexDigits (n : Nat) : Hexadecimal n (hexDigits n) := by
  refine ⟨Nat.toDigits_ne_nil, ?_⟩
  unfold hexDigits
  induction n using Nat.strong_induction_on with
  | _ n ih =>
    rcases Nat.lt_or_ge n 16 with hn | hn
    · rw [Nat.toDigits_of_lt_base hn]
      exact ⟨[n], .cons ⟨hn, .inl rfl⟩ .nil, by simp⟩
    · obtain ⟨ds, hds, hvalue⟩ := ih (n / 16) (by omega)
      rw [Nat.toDigits_of_base_le (by decide) hn]
      refine ⟨ds ++ [n % 16], List.rel_append hds (.cons ⟨Nat.mod_lt n (by decide), .inl rfl⟩ .nil), ?_⟩
      rw [List.reverse_append, List.reverse_singleton, List.singleton_append, Nat.ofDigits_cons, hvalue]
      exact Nat.mod_add_div n 16

end NetBench.Text
