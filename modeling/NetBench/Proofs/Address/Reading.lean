import Mathlib
import NetBench.Proofs.Address.Grammar
import NetBench.Proofs.Text.Trimming

/-! Reading an address out of a text. The blanks around it do not count, and what stands between
them must be written as the grammar says. -/
namespace NetBench
open Text

variable {s : String} {ip : Ip} {cs : List Char}

private theorem isBlank_of_isAlphanum {c : Char} (h : c.isAlphanum = true) : isBlank c = false := by
  have hascii : c.toNat < 128 := by
    simp only [Char.isAlphanum, Char.isAlpha, Char.isUpper, Char.isLower, Char.isDigit,
      Bool.or_eq_true, Bool.and_eq_true, decide_eq_true_eq] at h
    rcases h with (⟨-, h⟩ | ⟨-, h⟩) | ⟨-, h⟩ <;> exact Nat.lt_of_le_of_lt h (by decide)
  have hall : ∀ n < 128, (Char.ofNat n).isAlphanum = true → isBlank (Char.ofNat n) = false := by decide
  have hc := hall c.toNat hascii
  rw [Char.ofNat_toNat] at hc
  exact hc h

private theorem Group.not_blank {g : UInt16} (h : Group g cs) : ∀ c ∈ cs, isBlank c = false :=
  fun c hc => isBlank_of_isAlphanum (h.1.isAlphanum c hc)

private theorem Ip4.Written.not_blank {ip : Ip4} (h : ip.Written cs) : ∀ c ∈ cs, isBlank c = false := by
  obtain ⟨a, b, c, d, ha, hb, hc, hd, rfl⟩ := h
  have hoctet {n : UInt8} {cs : List Char} (h : Octet n cs) : ∀ c ∈ cs, isBlank c = false :=
    fun c hc => isBlank_of_isAlphanum (by simp [Char.isAlphanum, h.isDigit c hc])
  simp only [List.forall_mem_append, List.forall_mem_cons]
  exact ⟨hoctet ha, rfl, hoctet hb, rfl, hoctet hc, rfl, hoctet hd⟩

private theorem Groups.not_blank {dotted : Bool} {gs : List UInt16} (h : Groups dotted gs cs) :
    ∀ c ∈ cs, isBlank c = false := by
  induction h with
  | group h => exact h.not_blank
  | embedded _ h => exact h.not_blank
  | cons h _ ih => exact List.forall_mem_append.mpr ⟨h.not_blank, List.forall_mem_cons.mpr ⟨rfl, ih⟩⟩

private theorem Side.not_blank {dotted : Bool} {gs : List UInt16} (h : Side dotted gs cs) :
    ∀ c ∈ cs, isBlank c = false := by
  rcases h with ⟨-, rfl⟩ | h
  · exact nofun
  · exact h.not_blank

theorem Ip.Written.not_blank (h : ip.Written cs) : ∀ c ∈ cs, isBlank c = false := by
  cases ip with
  | v4 ip => exact Ip4.Written.not_blank h
  | v6 ip =>
    cases h with
    | full h => exact h.not_blank
    | gap _ _ hf hb =>
      simp only [List.forall_mem_append, List.forall_mem_cons]
      exact ⟨hf.not_blank, rfl, rfl, hb.not_blank⟩

theorem parseAddress_eq_ok_iff : parseAddress s = .ok ip ↔ ip.Written (trim s.toList) := by
  rw [← Ip.read?_eq_some_iff]
  unfold parseAddress
  cases Ip.read? (trim s.toList) with
  | none => exact iff_of_false nofun nofun
  | some found => simp

/-- What is written as an address reads as it, with any blanks around it. -/
theorem Ip.Written.parse (h : ip.Written cs) {u v : List Char} (hu : Blanks u) (hv : Blanks v) :
    parseAddress (String.ofList (u ++ cs ++ v)) = .ok ip := by
  rw [parseAddress_eq_ok_iff, String.toList_ofList, trim_around hu hv,
    (tight_of_forall h.not_blank).trim_eq]
  exact h

/-- A text that cannot be read is in the fault as it was given. -/
theorem parseAddress_eq_error_iff {why : Fault} :
    parseAddress s = .error why ↔ why = .badAddress s ∧ ∀ ip, parseAddress s ≠ .ok ip := by
  unfold parseAddress
  cases Ip.read? (trim s.toList) with
  | none => simp [eq_comm]
  | some found => simp

/-- Between the blanks around it a text is an IPv4 address, or an IPv6 address, or none, never both:
it reads as the address that is written there, and is refused if none is. -/
theorem parseAddress_follows_grammar (s : String) :
    ∃ t, (∀ t', Trimmed s.toList t' ↔ t' = t) ∧
      (∀ ip : Ip4, parseAddress s = .ok (.v4 ip) ↔ ip.Written t) ∧
      (∀ ip : Ip6, parseAddress s = .ok (.v6 ip) ↔ ip.Written t) ∧
      (∀ (ip : Ip4) (ip' : Ip6), ¬(ip.Written t ∧ ip'.Written t)) ∧
      (parseAddress s = .error (.badAddress s) ↔
        (∀ ip : Ip4, ¬ip.Written t) ∧ ∀ ip : Ip6, ¬ip.Written t) := by
  have hread (ip : Ip) : parseAddress s = .ok ip ↔ ip.Written (trim s.toList) :=
    parseAddress_eq_ok_iff
  refine ⟨trim s.toList, fun t' => trim_eq_iff.symm.trans eq_comm, fun ip => hread (.v4 ip),
    fun ip => hread (.v6 ip), fun ip ip' h => h.1.not_written ip' h.2, ?_⟩
  rw [parseAddress_eq_error_iff, and_iff_right rfl]
  constructor
  · intro hnone
    exact ⟨fun ip h => hnone (.v4 ip) ((hread (.v4 ip)).mpr h),
      fun ip h => hnone (.v6 ip) ((hread (.v6 ip)).mpr h)⟩
  · rintro ⟨h4, h6⟩ (ip | ip) hok
    · exact h4 ip ((hread (.v4 ip)).mp hok)
    · exact h6 ip ((hread (.v6 ip)).mp hok)

example : parseAddress "\t1:2::FFFF:1.2.3.4\n" =
    .ok (.v6 ⟨[1, 2, 0, 0, 0, 0xFFFF, 0x0102, 0x0304], rfl⟩) := rfl

/-- Nothing is left for the gap to stand for. -/
example : parseAddress "1:2:3:4::5:6:7:8" = .error (.badAddress "1:2:3:4::5:6:7:8") := rfl

end NetBench
