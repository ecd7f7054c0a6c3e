import Mathlib
import NetBench.Address.Display
import NetBench.Proofs.Address.Reading

/-! The canonical text of addresses. It is laid down beside the display, which writes it, and it is
one of the texts that read as the address. -/
namespace NetBench
open Text

/-! The gap of the canonical text -/

/-- At place `start` and after it there are `len` zero groups. -/
def ZerosAt (gs : List UInt16) (start len : Nat) : Prop := List.replicate len 0 <+: gs.drop start

/-- The first of the longest runs of zero groups. -/
structure LongestZeros (gs : List UInt16) (start len : Nat) : Prop where
  zeros : ZerosAt gs start len
  longest : ∀ s l, ZerosAt gs s l → l ≤ len
  first : ∀ s, ZerosAt gs s len → start ≤ s

variable {gs : List UInt16} {start len : Nat}

theorem ZerosAt.split (h : ZerosAt gs start len) :
    gs = gs.take start ++ List.replicate len 0 ++ gs.drop (start + len) := by
  obtain ⟨after, hafter⟩ := h
  have hdrop : gs.drop (start + len) = after := by
    rw [← List.drop_drop, ← hafter, List.drop_left' List.length_replicate]
  rw [hdrop, List.append_assoc, hafter, List.take_append_drop]

theorem LongestZeros.unique {start' len' : Nat} (h : LongestZeros gs start len)
    (h' : LongestZeros gs start' len') : start = start' ∧ len = len' := by
  obtain rfl : len = len' := Nat.le_antisymm (h'.longest _ _ h.zeros) (h.longest _ _ h'.zeros)
  exact ⟨Nat.le_antisymm (h.first _ h'.zeros) (h'.first _ h.zeros), rfl⟩

private theorem zerosAt_zero_iff : ZerosAt gs 0 len ↔ len ≤ zeroRun gs := by
  unfold ZerosAt zeroRun
  rw [List.drop_zero]
  induction gs generalizing len with
  | nil => simp
  | cons g gs ih =>
    cases len with
    | zero => simp
    | succ len =>
      rw [List.replicate_succ, List.cons_prefix_cons, ih]
      by_cases hg : g = 0
      · simp [hg]
      · simp [hg, Ne.symm hg]

/-- The search goes from place `i` on, and finds the first of the longest runs. -/
private theorem longestZeros_from (i : Nat) (gs : List UInt16) :
    ∃ start, (longestZeroRun i gs).1 = i + start ∧
      LongestZeros gs start (longestZeroRun i gs).2 := by
  induction gs generalizing i with
  | nil =>
    refine ⟨0, rfl, List.nil_prefix, fun s l h => ?_, fun s _ => Nat.zero_le s⟩
    have hl : l = 0 := by simpa [ZerosAt] using h
    exact Nat.le_of_eq hl
  | cons g gs ih =>
    obtain ⟨start, hplace, hlater⟩ := ih (i + 1)
    have hrun {l : Nat} : ZerosAt (g :: gs) 0 l ↔ l ≤ zeroRun (g :: gs) := zerosAt_zero_iff
    simp only [longestZeroRun]
    split
    · next hle =>
      refine ⟨0, rfl, hrun.mpr (Nat.le_refl _), fun s l h => ?_, fun s _ => Nat.zero_le s⟩
      cases s with
      | zero => exact hrun.mp h
      | succ s => exact Nat.le_trans (hlater.longest s l h) hle
    · next hlt =>
      have hlt := Nat.not_le.mp hlt
      refine ⟨start + 1, by omega, hlater.zeros, fun s l h => ?_, fun s h => ?_⟩
      · cases s with
        | zero => exact Nat.le_of_lt (Nat.lt_of_le_of_lt (hrun.mp h) hlt)
        | succ s => exact hlater.longest s l h
      · cases s with
        | zero => exact absurd (hrun.mp h) (Nat.not_le.mpr hlt)
        | succ s => exact Nat.succ_le_succ (hlater.first s h)

theorem longestZeros_longestZeroRun (gs : List UInt16) :
    LongestZeros gs (longestZeroRun 0 gs).1 (longestZeroRun 0 gs).2 := by
  obtain ⟨start, hplace, h⟩ := longestZeros_from 0 gs
  rwa [hplace, Nat.zero_add]

/-! The canonical text -/

/-- Four decimal numbers without zeros in front, between dots. -/
def Ip4.dotted (ip : Ip4) : List Char :=
  ['.'].intercalate ([ip.a, ip.b, ip.c, ip.d].map fun n => Nat.toDigits 10 n.toNat)

/-- Hexadecimal numbers in lower case and without zeros in front, between colons. -/
def spelledOut (gs : List UInt16) : List Char :=
  [':'].intercalate (gs.map fun g => Nat.toDigits 16 g.toNat)

def Ip6.Maps (ip : Ip6) (hi lo : UInt16) : Prop := ip.groups = [0, 0, 0, 0, 0, 0xFFFF, hi, lo]

/-- The canonical text of an IPv6 address. Mapped addresses keep their dots; in others the first of
the longest runs of zero groups is a gap, if it has two or more. -/
inductive Ip6.Canonical (ip : Ip6) : List Char → Prop where
  | mapped {hi lo : UInt16} (h : ip.Maps hi lo) :
      ip.Canonical ("::ffff:".toList ++ (Ip4.ofGroups hi lo).dotted)
  | gap (hm : ∀ hi lo, ¬ip.Maps hi lo) {start len : Nat} (h : LongestZeros ip.groups start len)
      (hlen : 2 ≤ len) : ip.Canonical
        (spelledOut (ip.groups.take start) ++ ':' :: ':' :: spelledOut (ip.groups.drop (start + len)))
  | plain (hm : ∀ hi lo, ¬ip.Maps hi lo) (h : ∀ start len, ZerosAt ip.groups start len → len < 2) :
      ip.Canonical (spelledOut ip.groups)

/-- The canonical text of an address. -/
def Ip.Canonical : Ip → List Char → Prop
  | .v4 ip, cs => cs = ip.dotted
  | .v6 ip, cs => ip.Canonical cs

theorem joinWith_eq_intercalate (sep : List Char) (parts : List (List Char)) :
    joinWith sep parts = sep.intercalate parts := by
  induction parts with
  | nil => rfl
  | cons x parts ih =>
    cases parts with
    | nil => simp [joinWith]
    | cons y rest => rw [joinWith, ih, List.intercalate_cons_cons]

theorem Ip4.chars_eq (ip : Ip4) : ip.chars = ip.dotted := joinWith_eq_intercalate _ _

theorem groupChars_eq (gs : List UInt16) : groupChars gs = spelledOut gs :=
  joinWith_eq_intercalate _ _

/-- The display is in canonical form. -/
theorem Ip6.canonical_chars (ip : Ip6) : ip.Canonical ip.chars := by
  unfold Ip6.chars
  split
  · next hi lo hgroups =>
    rw [Ip4.chars_eq]
    exact .mapped hgroups
  · next hnot =>
    have hm (hi lo : UInt16) : ¬ip.Maps hi lo := hnot hi lo
    have hlongest := longestZeros_longestZeroRun ip.groups
    simp only [groupChars_eq]
    split
    · next hlen =>
      rw [List.append_assoc]
      exact .gap hm hlongest hlen
    · next hlen =>
      exact .plain hm fun start len h =>
        Nat.lt_of_le_of_lt (hlongest.longest start len h) (Nat.not_le.mp hlen)

/-- An address has one canonical text. -/
theorem Ip6.Canonical.unique {ip : Ip6} {cs cs' : List Char} (h : ip.Canonical cs)
    (h' : ip.Canonical cs') : cs = cs' := by
  cases h with
  | @mapped hi lo h =>
    cases h' with
    | @mapped hi' lo' h' =>
      obtain ⟨rfl, rfl⟩ : hi = hi' ∧ lo = lo' := by simpa using h.symm.trans h'
      rfl
    | gap hm => exact absurd h (hm _ _)
    | plain hm => exact absurd h (hm _ _)
  | gap hm h hlen =>
    cases h' with
    | mapped h' => exact absurd h' (hm _ _)
    | gap _ h' =>
      obtain ⟨rfl, rfl⟩ := h.unique h'
      rfl
    | plain _ h' => exact absurd hlen (Nat.not_le.mpr (h' _ _ h.zeros))
  | plain hm h =>
    cases h' with
    | mapped h' => exact absurd h' (hm _ _)
    | gap _ h' hlen => exact absurd hlen (Nat.not_le.mpr (h _ _ h'.zeros))
    | plain => rfl

theorem Ip.canonical_iff (ip : Ip) (cs : List Char) : ip.Canonical cs ↔ cs = ip.chars := by
  cases ip with
  | v4 ip =>
    rw [Ip.Canonical, Ip.chars, Ip4.chars_eq]
  | v6 ip =>
    constructor
    · exact fun h => h.unique ip.canonical_chars
    · rintro rfl
      exact ip.canonical_chars

/-! The canonical text as one that can be read -/

theorem Ip4.written_dotted (ip : Ip4) : ip.Written ip.dotted :=
  ⟨_, _, _, _, rfl, rfl, rfl, rfl, by simp [Ip4.dotted, List.intercalate_cons_cons]⟩

theorem group_toDigits (g : UInt16) : Group g (Nat.toDigits 16 g.toNat) := by
  refine ⟨hexadecimal_hexDigits g.toNat, ?_⟩
  have hlt : g.toNat < 16 ^ 4 := g.toNat_lt
  exact (Nat.length_toDigits_le_iff (by decide) (by decide)).mpr hlt

theorem groups_spelledOut {dotted : Bool} (hne : gs ≠ []) : Groups dotted gs (spelledOut gs) := by
  induction gs with
  | nil => exact absurd rfl hne
  | cons g gs ih =>
    cases gs with
    | nil => simpa [spelledOut] using Groups.group (group_toDigits g)
    | cons g' gs =>
      have hspelled : spelledOut (g :: g' :: gs) =
          Nat.toDigits 16 g.toNat ++ ':' :: spelledOut (g' :: gs) := by
        simp [spelledOut, List.intercalate_cons_cons]
      rw [hspelled]
      exact .cons (group_toDigits g) (ih (List.cons_ne_nil g' gs))

private theorem side_spelledOut (dotted : Bool) (gs : List UInt16) : Side dotted gs (spelledOut gs) := by
  rcases eq_or_ne gs [] with rfl | hne
  · exact .inl ⟨rfl, rfl⟩
  · exact .inr (groups_spelledOut hne)

private theorem groups_ofGroups (hi lo : UInt16) : (Ip4.ofGroups hi lo).groups = [hi, lo] := by
  have hbytes (g : UInt16) : (g / 256).toUInt8.toUInt16 * 256 + g.toUInt8.toUInt16 = g := by
    apply UInt16.toNat_inj.mp
    have hlt := g.toNat_lt
    simp
    omega
  rw [Ip4.groups, Ip4.ofGroups, hbytes, hbytes]

theorem Ip6.Canonical.written {ip : Ip6} {cs : List Char} (h : ip.Canonical cs) : ip.Written cs := by
  cases h with
  | @mapped hi lo h =>
    have hback : Groups true [0xFFFF, hi, lo] ("ffff".toList ++ ':' :: (Ip4.ofGroups hi lo).dotted) := by
      rw [← groups_ofGroups hi lo]
      exact .cons (group_toDigits 0xFFFF) (.embedded rfl (Ip4.written_dotted _))
    exact @Ip6.Written.gap ip [] [0xFFFF, hi, lo] 5 [] _ (by decide) h (.inl ⟨rfl, rfl⟩) (.inr hback)
  | @gap _ start len h hlen =>
    exact .gap (by omega) h.zeros.split (side_spelledOut false _) (side_spelledOut true _)
  | plain =>
    refine .full (groups_spelledOut ?_)
    intro hnil
    simpa [hnil] using ip.length_groups

theorem Ip.written_chars (ip : Ip) : ip.Written ip.chars := by
  cases ip with
  | v4 ip =>
    rw [Ip.chars, Ip4.chars_eq]
    exact ip.written_dotted
  | v6 ip => exact ip.canonical_chars.written

/-- An address reads back from its text, with any blanks around it, and the text is canonical: so no
two addresses have the same text, and the text of an address that was read reads as it again. Blanks
around any text make no difference, and a text that is refused is in the fault as it was given. -/
theorem parseAddress_inverts_text :
    (∀ (ip : Ip) cs, ip.Canonical cs ↔ cs = ip.text.toList) ∧
      (∀ (ip : Ip) u v, Blanks u → Blanks v →
        parseAddress (String.ofList (u ++ ip.text.toList ++ v)) = .ok ip) ∧
      Function.Injective Ip.text ∧
      (∀ s ip, parseAddress s = .ok ip → parseAddress ip.text = .ok ip) ∧
      (∀ s ip, parseAddress s = .ok ip ↔ parseAddress (String.ofList (trim s.toList)) = .ok ip) ∧
      ∀ s why, parseAddress s = .error why → why = .badAddress s := by
  have htext (ip : Ip) : ip.text.toList = ip.chars := String.toList_ofList
  have hback (ip : Ip) {u v : List Char} (hu : Blanks u) (hv : Blanks v) :
      parseAddress (String.ofList (u ++ ip.text.toList ++ v)) = .ok ip :=
    htext ip ▸ ip.written_chars.parse hu hv
  have hsame (ip : Ip) : parseAddress ip.text = .ok ip := by
    simpa using hback ip (u := []) (v := []) nofun nofun
  refine ⟨fun ip cs => htext ip ▸ ip.canonical_iff cs, fun ip u v => hback ip, ?_,
    fun s ip _ => hsame ip, ?_, fun s why h => (parseAddress_eq_error_iff.mp h).1⟩
  · intro ip ip' h
    have hok : (.ok ip : Except Fault Ip) = .ok ip' := by rw [← hsame ip, h, hsame ip']
    exact Except.ok.inj hok
  · intro s ip
    rw [parseAddress_eq_ok_iff, parseAddress_eq_ok_iff, String.toList_ofList, trim_trim]

def twoRuns : Ip := .v6 ⟨[1, 0, 0, 2, 0, 0, 3, 0xAB], rfl⟩

theorem parseAddress_inverts_text_twoRuns :
    Blanks ['\u3000', '\n'] ∧ Blanks [' '] ∧ twoRuns.text = "1::2:0:0:3:ab" ∧
      twoRuns.Canonical twoRuns.text.toList ∧
      parseAddress (String.ofList (['\u3000', '\n'] ++ twoRuns.text.toList ++ [' '])) = .ok twoRuns := by
  have hu : Blanks ['\u3000', '\n'] := by simp [Blanks, isBlank]
  have hv : Blanks [' '] := by simp [Blanks, isBlank]
  obtain ⟨hcanonical, hread, -⟩ := parseAddress_inverts_text
  exact ⟨hu, hv, rfl, (hcanonical twoRuns _).mpr rfl, hread twoRuns _ _ hu hv⟩

end NetBench
