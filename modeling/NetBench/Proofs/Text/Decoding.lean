import NetBench.Text.Utf8

/-! What was encoded reads back. A text comes out of its bytes as it went in, and so does whatever
follows it. -/
namespace NetBench.Text

private theorem toNat_ofNat {n : Nat} (h : n < 256) : (UInt8.ofNat n).toNat = n := by
  rw [UInt8.toNat_ofNat']
  exact Nat.mod_eq_of_lt h

private theorem ofByte?_ofNat {n : Nat} (h : n < 256) : Lead.ofByte? (UInt8.ofNat n) =
    if n < 0x80 then some ⟨0, 0x80, 0xBF, n⟩
    else if n < 0xC2 then none
    else if n < 0xE0 then some ⟨1, 0x80, 0xBF, n - 0xC0⟩
    else if n = 0xE0 then some ⟨2, 0xA0, 0xBF, 0⟩
    else if n = 0xED then some ⟨2, 0x80, 0x9F, 0xD⟩
    else if n < 0xF0 then some ⟨2, 0x80, 0xBF, n - 0xE0⟩
    else if n = 0xF0 then some ⟨3, 0x90, 0xBF, 0⟩
    else if n < 0xF4 then some ⟨3, 0x80, 0xBF, n - 0xF0⟩
    else if n = 0xF4 then some ⟨3, 0x80, 0x8F, 4⟩
    else none := by
  have hn := toNat_ofNat h
  simp only [Lead.ofByte?, UInt8.lt_iff_toNat_lt, beq_iff_eq, ← UInt8.toNat_inj, hn]
  rfl

private theorem follow_cons {more m : Nat} {low high : UInt8} {bits : Nat} {bytes : List UInt8}
    (hm : m < 64) (hl : low.toNat ≤ m + 0x80) (hh : m + 0x80 ≤ high.toNat) :
    follow (more + 1) low high bits (UInt8.ofNat (m + 0x80) :: bytes) =
      follow more 0x80 0xBF (bits * 64 + m) bytes := by
  have hn := toNat_ofNat (n := m + 0x80) (by omega)
  have hin : (low ≤ UInt8.ofNat (m + 0x80) && UInt8.ofNat (m + 0x80) ≤ high) = true := by
    rw [Bool.and_eq_true, decide_eq_true_iff, decide_eq_true_iff, UInt8.le_iff_toNat_le,
      UInt8.le_iff_toNat_le, hn]
    exact ⟨hl, hh⟩
  rw [follow, if_pos hin, hn, Nat.add_sub_cancel]

private theorem nextChar_of_follow {b : UInt8} {v : Nat} {lead : Lead} {bytes rest : List UInt8}
    (hlead : Lead.ofByte? b = some lead)
    (hf : follow lead.more lead.low lead.high lead.bits bytes = (some v, rest)) :
    nextChar b bytes = (Char.ofNat v, rest) := by
  simp only [nextChar, hlead, hf]
  rfl

private theorem nextChar_one {v : Nat} (h : v < 0x80) (rest : List UInt8) :
    nextChar (UInt8.ofNat v) rest = (Char.ofNat v, rest) := by
  have hlead : Lead.ofByte? (UInt8.ofNat v) = some ⟨0, 0x80, 0xBF, v⟩ := by
    rw [ofByte?_ofNat (by omega), if_pos h]
  exact nextChar_of_follow hlead rfl

private theorem nextChar_two {v : Nat} (hl : 0x80 ≤ v) (hh : v < 0x800) (rest : List UInt8) :
    nextChar (UInt8.ofNat (v / 64 + 0xC0)) (UInt8.ofNat (v % 64 + 0x80) :: rest) =
      (Char.ofNat v, rest) := by
  have hlead : Lead.ofByte? (UInt8.ofNat (v / 64 + 0xC0)) = some ⟨1, 0x80, 0xBF, v / 64⟩ := by
    rw [ofByte?_ofNat (by omega), if_neg (by omega), if_neg (by omega), if_pos (by omega),
      Nat.add_sub_cancel]
  have hlast : v % 64 < 64 := Nat.mod_lt v (by decide)
  have hv : v / 64 * 64 + v % 64 = v := by omega
  apply nextChar_of_follow hlead
  rw [follow_cons hlast (Nat.le_add_left _ _) (Nat.add_le_add_right (Nat.le_of_lt_succ hlast) _),
    follow, hv]

private theorem nextChar_three {v : Nat} (hl : 0x800 ≤ v) (hh : v < 0x10000)
    (hs : v < 0xD800 ∨ 0xDFFF < v) (rest : List UInt8) :
    nextChar (UInt8.ofNat (v / 4096 + 0xE0))
        (UInt8.ofNat (v / 64 % 64 + 0x80) :: UInt8.ofNat (v % 64 + 0x80) :: rest) =
      (Char.ofNat v, rest) := by
  obtain ⟨low, high, hlead, hlow, hhigh⟩ : ∃ low high : UInt8,
      Lead.ofByte? (UInt8.ofNat (v / 4096 + 0xE0)) = some ⟨2, low, high, v / 4096⟩ ∧
        low.toNat ≤ v / 64 % 64 + 0x80 ∧ v / 64 % 64 + 0x80 ≤ high.toNat := by
    rw [ofByte?_ofNat (by omega), if_neg (by omega), if_neg (by omega), if_neg (by omega)]
    by_cases h0 : v / 4096 = 0
    · refine ⟨0xA0, 0xBF, ?_, ?_, ?_⟩
      · rw [h0]; rfl
      · change 0xA0 ≤ _; omega
      · change _ ≤ 0xBF; omega
    by_cases hD : v / 4096 = 0xD
    · refine ⟨0x80, 0x9F, ?_, ?_, ?_⟩
      · rw [hD]; rfl
      · change 0x80 ≤ _; omega
      · change _ ≤ 0x9F; omega
    · refine ⟨0x80, 0xBF, ?_, ?_, ?_⟩
      · rw [if_neg (by omega), if_neg (by omega), if_pos (by omega), Nat.add_sub_cancel]
      · change 0x80 ≤ _; omega
      · change _ ≤ 0xBF; omega
  have hmiddle : v / 64 % 64 < 64 := Nat.mod_lt _ (by decide)
  have hlast : v % 64 < 64 := Nat.mod_lt v (by decide)
  have hv : (v / 4096 * 64 + v / 64 % 64) * 64 + v % 64 = v := by omega
  apply nextChar_of_follow hlead
  rw [follow_cons hmiddle hlow hhigh, follow_cons hlast (Nat.le_add_left _ _)
    (Nat.add_le_add_right (Nat.le_of_lt_succ hlast) _), follow, hv]

private theorem nextChar_four {v : Nat} (hl : 0x10000 ≤ v) (hh : v < 0x110000)
    (rest : List UInt8) :
    nextChar (UInt8.ofNat (v / 262144 + 0xF0)) (UInt8.ofNat (v / 4096 % 64 + 0x80) ::
        UInt8.ofNat (v / 64 % 64 + 0x80) :: UInt8.ofNat (v % 64 + 0x80) :: rest) =
      (Char.ofNat v, rest) := by
  obtain ⟨low, high, hlead, hlow, hhigh⟩ : ∃ low high : UInt8,
      Lead.ofByte? (UInt8.ofNat (v / 262144 + 0xF0)) = some ⟨3, low, high, v / 262144⟩ ∧
        low.toNat ≤ v / 4096 % 64 + 0x80 ∧ v / 4096 % 64 + 0x80 ≤ high.toNat := by
    rw [ofByte?_ofNat (by omega), if_neg (by omega), if_neg (by omega), if_neg (by omega),
      if_neg (by omega), if_neg (by omega), if_neg (by omega)]
    by_cases h0 : v / 262144 = 0
    · refine ⟨0x90, 0xBF, ?_, ?_, ?_⟩
      · rw [h0]; rfl
      · change 0x90 ≤ _; omega
      · change _ ≤ 0xBF; omega
    by_cases h4 : v / 262144 = 4
    · refine ⟨0x80, 0x8F, ?_, ?_, ?_⟩
      · rw [h4]; rfl
      · change 0x80 ≤ _; omega
      · change _ ≤ 0x8F; omega
    · refine ⟨0x80, 0xBF, ?_, ?_, ?_⟩
      · rw [if_neg (by omega), if_pos (by omega), Nat.add_sub_cancel]
      · change 0x80 ≤ _; omega
      · change _ ≤ 0xBF; omega
  have hsecond : v / 4096 % 64 < 64 := Nat.mod_lt _ (by decide)
  have hthird : v / 64 % 64 < 64 := Nat.mod_lt _ (by decide)
  have hlast : v % 64 < 64 := Nat.mod_lt v (by decide)
  have hv : ((v / 262144 * 64 + v / 4096 % 64) * 64 + v / 64 % 64) * 64 + v % 64 = v := by omega
  apply nextChar_of_follow hlead
  rw [follow_cons hsecond hlow hhigh,
    follow_cons hthird (Nat.le_add_left _ _) (Nat.add_le_add_right (Nat.le_of_lt_succ hthird) _),
    follow_cons hlast (Nat.le_add_left _ _) (Nat.add_le_add_right (Nat.le_of_lt_succ hlast) _),
    follow, hv]

private theorem fromUtf8_cons {b : UInt8} {c : Char} {bytes rest : List UInt8}
    (h : nextChar b bytes = (c, rest)) : fromUtf8 (b :: bytes) = c :: fromUtf8 rest := by
  rw [fromUtf8, h]

/-- A character reads back from its bytes, whatever follows them. -/
theorem fromUtf8_encode (c : Char) (rest : List UInt8) :
    fromUtf8 (String.utf8EncodeChar c ++ rest) = c :: fromUtf8 rest := by
  have hc : Char.ofNat c.val.toNat = c := Char.ofNat_toNat c
  -- no character is a surrogate, and none is above U+10FFFF
  have hvalid : c.val.toNat < 0xD800 ∨ (0xDFFF < c.val.toNat ∧ c.val.toNat < 0x110000) := c.valid
  unfold String.utf8EncodeChar
  generalize c.val.toNat = v at hc hvalid
  by_cases h1 : v ≤ 0x7F
  · rw [if_pos h1]
    exact hc ▸ fromUtf8_cons (nextChar_one (by omega) rest)
  by_cases h2 : v ≤ 0x7FF
  · rw [if_neg h1, if_pos h2, Nat.mod_eq_of_lt (by omega : v / 64 < 0x20)]
    exact hc ▸ fromUtf8_cons (nextChar_two (by omega) (by omega) rest)
  by_cases h3 : v ≤ 0xFFFF
  · rw [if_neg h1, if_neg h2, if_pos h3, Nat.mod_eq_of_lt (by omega : v / 4096 < 0x10)]
    exact hc ▸ fromUtf8_cons (nextChar_three (by omega) (by omega) (by omega) rest)
  · rw [if_neg h1, if_neg h2, if_neg h3, Nat.mod_eq_of_lt (by omega : v / 262144 < 0x08)]
    exact hc ▸ fromUtf8_cons (nextChar_four (by omega) (by omega) rest)

theorem fromUtf8_utf8_append (s : String) (rest : List UInt8) :
    fromUtf8 (utf8 s ++ rest) = s.toList ++ fromUtf8 rest := by
  rw [utf8]
  induction s.toList with
  | nil => rfl
  | cons c cs ih => rw [List.flatMap_cons, List.append_assoc, fromUtf8_encode, ih, List.cons_append]

/-- A text that ends in a zero byte reads back with a zero character at its end. -/
theorem textOf_utf8_zero (s : String) : textOf (utf8 s ++ [0]) = s.push '\x00' := by
  have hz : nextChar 0 [] = ('\x00', []) := rfl
  rw [textOf, fromUtf8_utf8_append, fromUtf8_cons hz, fromUtf8, ← String.toList_push,
    String.ofList_toList]

end NetBench.Text
