import NetBench.Address.Reader
import NetBench.Proofs.Text.Cutting
import NetBench.Proofs.Text.Hexadecimals
import NetBench.Proofs.Text.Numerals

/-! How addresses are written: the grammar of both families, beside the reader. What the reader
takes are the texts of the grammar, with the address that they denote. -/
namespace NetBench
open Text

def Octet (n : UInt8) (cs : List Char) : Prop := cs = Nat.toDigits 10 n.toNat

def Group (g : UInt16) (cs : List Char) : Prop := Hexadecimal g.toNat cs ∧ cs.length ≤ 4

def Ip4.Written (ip : Ip4) (cs : List Char) : Prop :=
  ∃ a b c d, Octet ip.a a ∧ Octet ip.b b ∧ Octet ip.c c ∧ Octet ip.d d ∧
    cs = a ++ '.' :: (b ++ '.' :: (c ++ '.' :: d))

/-- Groups with colons between them. If `dotted`, an IPv4 address may stand for the last two. -/
inductive Groups (dotted : Bool) : List UInt16 → List Char → Prop where
  | group {g : UInt16} {cs : List Char} (h : Group g cs) : Groups dotted [g] cs
  | embedded {ip : Ip4} {cs : List Char} (hd : dotted = true) (h : ip.Written cs) :
      Groups dotted ip.groups cs
  | cons {g : UInt16} {gs : List UInt16} {cs rest : List Char} (h : Group g cs)
      (hr : Groups dotted gs rest) : Groups dotted (g :: gs) (cs ++ ':' :: rest)

/-- The groups on one side of a gap. There may be none. -/
def Side (dotted : Bool) (gs : List UInt16) (cs : List Char) : Prop :=
  (gs = [] ∧ cs = []) ∨ Groups dotted gs cs

/-- All eight groups, or those on both sides of one gap, which stands for at least one zero group. -/
inductive Ip6.Written (ip : Ip6) : List Char → Prop where
  | full {cs : List Char} (h : Groups true ip.groups cs) : ip.Written cs
  | gap {front back : List UInt16} {zeros : Nat} {fs bs : List Char} (hz : 0 < zeros)
      (hg : ip.groups = front ++ List.replicate zeros 0 ++ back) (hf : Side false front fs)
      (hb : Side true back bs) : ip.Written (fs ++ ':' :: ':' :: bs)

variable {cs fs bs : List Char} {gs : List UInt16} {dotted : Bool}

/-! Octets and groups -/

theorem octet?_eq_some_iff {n : UInt8} : octet? cs = some n ↔ Octet n cs := by
  rw [octet?, Octet, eq_toDigits_iff]
  constructor
  · intro h
    split at h
    · cases h
    · next hshort =>
      obtain ⟨m, hm, hn⟩ := Option.bind_eq_some_iff.mp h
      split at hn
      · next hlt =>
        obtain rfl := Option.some.inj hn
        have hvalue : m.toUInt8.toNat = m := UInt8.toNat_ofNat_of_lt' hlt
        rw [hvalue]
        exact ⟨decimal?_eq_some_iff.mp hm, fun hzero => hshort (by simp [hzero])⟩
      · cases hn
  · rintro ⟨hn, hzero⟩
    have hlt : n.toNat < 256 := n.toNat_lt
    have hlen : cs.length ≤ 3 := by
      rw [eq_toDigits_iff.mpr ⟨hn, hzero⟩, Nat.length_toDigits_le_iff (by decide) (by decide)]
      omega
    rw [if_neg (by simpa [Nat.not_lt.mpr hlen] using hzero), decimal?_eq_some_iff.mpr hn]
    exact (if_pos hlt).trans (congrArg some UInt8.ofNat_toNat)

theorem group?_eq_some_iff {g : UInt16} : group? cs = some g ↔ Group g cs := by
  unfold group? Group
  by_cases hlen : cs.length ≤ 4
  · rw [if_neg (Nat.not_lt.mpr hlen), Option.map_eq_some_iff]
    refine Iff.trans ?_ (and_iff_left hlen).symm
    constructor
    · rintro ⟨n, hn, rfl⟩
      have hn := number?_hex_eq_some_iff.mp hn
      have hlt : n < 65536 := Nat.lt_of_lt_of_le hn.lt_pow (Nat.pow_le_pow_right (by decide) hlen)
      have hvalue : n.toUInt16.toNat = n := UInt16.toNat_ofNat_of_lt' hlt
      rwa [hvalue]
    · intro hg
      exact ⟨g.toNat, number?_hex_eq_some_iff.mpr hg, UInt16.ofNat_toNat⟩
  · exact iff_of_false (by simp [Nat.not_le.mp hlen]) fun h => hlen h.2

/-! IPv4 addresses -/

theorem Octet.isDigit {n : UInt8} (h : Octet n cs) : ∀ c ∈ cs, c.isDigit = true := by
  intro c hc
  rw [h] at hc
  exact Nat.isDigit_of_mem_toDigits (by decide) (by decide) hc

theorem Octet.dot_not_mem {n : UInt8} (h : Octet n cs) : '.' ∉ cs := fun hdot =>
  absurd (h.isDigit '.' hdot) (by decide)

theorem Ip4.read?_eq_some_iff {ip : Ip4} : Ip4.read? cs = some ip ↔ ip.Written cs := by
  constructor
  · intro h
    unfold Ip4.read? at h
    split at h
    · next a b c d hparts =>
      obtain ⟨w, ha, h⟩ := Option.bind_eq_some_iff.mp h
      obtain ⟨x, hb, h⟩ := Option.bind_eq_some_iff.mp h
      obtain ⟨y, hc, h⟩ := Option.bind_eq_some_iff.mp h
      obtain ⟨z, hd, h⟩ := Option.bind_eq_some_iff.mp h
      obtain rfl := Option.some.inj h
      refine ⟨a, b, c, d, octet?_eq_some_iff.mp ha, octet?_eq_some_iff.mp hb,
        octet?_eq_some_iff.mp hc, octet?_eq_some_iff.mp hd, ?_⟩
      have hjoin := joinWith_pieces '.' cs
      rw [hparts] at hjoin
      simpa [joinWith] using hjoin.symm
    · cases h
  · rintro ⟨a, b, c, d, ha, hb, hc, hd, rfl⟩
    rw [Ip4.read?, pieces_append ha.dot_not_mem, pieces_append hb.dot_not_mem,
      pieces_append hc.dot_not_mem, pieces_of_not_mem hd.dot_not_mem]
    simp only [octet?_eq_some_iff.mpr ha, octet?_eq_some_iff.mpr hb, octet?_eq_some_iff.mpr hc,
      octet?_eq_some_iff.mpr hd]
    rfl

theorem Ip4.Written.colon_not_mem {ip : Ip4} (h : ip.Written cs) : ':' ∉ cs := by
  obtain ⟨a, b, c, d, ha, hb, hc, hd, rfl⟩ := h
  have hout {n : UInt8} {cs : List Char} (h : Octet n cs) : ':' ∉ cs := fun hcolon =>
    absurd (h.isDigit ':' hcolon) (by decide)
  simp [hout ha, hout hb, hout hc, hout hd]

theorem Ip4.Written.dot_mem {ip : Ip4} (h : ip.Written cs) : '.' ∈ cs := by
  obtain ⟨a, b, c, d, -, -, -, -, rfl⟩ := h
  exact List.mem_append_right a (.head _)

/-! Groups between colons -/

theorem Group.not_mem {g : UInt16} (h : Group g cs) {c : Char} (hc : c.isAlphanum = false) : c ∉ cs :=
  fun hmem => by simpa [hc] using h.1.isAlphanum c hmem

theorem Group.colon_not_mem {g : UInt16} (h : Group g cs) : ':' ∉ cs := h.not_mem (by decide)

/-- Neither of the two ways to write the end of the groups can be taken for the other. -/
theorem Group.not_written {g : UInt16} (h : Group g cs) (ip : Ip4) : ¬ip.Written cs :=
  fun hip => h.not_mem (by decide) hip.dot_mem

private theorem groups_of_plain {parts : List (List Char)} (hne : parts ≠ [])
    (h : plainGroups? parts = some gs) : Groups false gs (joinWith [':'] parts) := by
  induction parts generalizing gs with
  | nil => exact absurd rfl hne
  | cons part parts ih =>
    rw [plainGroups?, List.mapM_cons] at h
    obtain ⟨g, hg, h⟩ := Option.bind_eq_some_iff.mp h
    obtain ⟨gs, hgs, h⟩ := Option.bind_eq_some_iff.mp h
    obtain rfl := Option.some.inj h
    have hgroup := group?_eq_some_iff.mp hg
    cases parts with
    | nil =>
      obtain rfl : gs = [] := (Option.some.inj hgs).symm
      exact .group hgroup
    | cons next parts =>
      rw [joinWith_cons (List.cons_ne_nil next parts)]
      exact .cons hgroup (ih (List.cons_ne_nil next parts) hgs)

private theorem groups_of_mixed {parts : List (List Char)} (hne : parts ≠ [])
    (h : groups? parts = some gs) : Groups true gs (joinWith [':'] parts) := by
  induction parts generalizing gs with
  | nil => exact absurd rfl hne
  | cons part parts ih =>
    cases parts with
    | nil =>
      rw [groups?] at h
      split at h
      · next ip hip =>
        obtain rfl := Option.some.inj h
        exact .embedded rfl (Ip4.read?_eq_some_iff.mp hip)
      · obtain ⟨g, hg, rfl⟩ := Option.map_eq_some_iff.mp h
        exact .group (group?_eq_some_iff.mp hg)
    | cons next parts =>
      obtain ⟨g, hg, h⟩ := Option.bind_eq_some_iff.mp h
      obtain ⟨gs, hgs, h⟩ := Option.bind_eq_some_iff.mp h
      obtain rfl := Option.some.inj h
      rw [joinWith_cons (List.cons_ne_nil next parts)]
      exact .cons (group?_eq_some_iff.mp hg) (ih (List.cons_ne_nil next parts) hgs)

theorem plainGroups?_eq_some_iff : plainGroups? (pieces ':' cs) = some gs ↔ Groups false gs cs := by
  constructor
  · intro h
    have hgroups := groups_of_plain (pieces_ne_nil ':' cs) h
    rwa [joinWith_pieces] at hgroups
  · intro h
    induction h with
    | group h =>
      rw [pieces_of_not_mem h.colon_not_mem, plainGroups?, List.mapM_cons, group?_eq_some_iff.mpr h]
      rfl
    | embedded hd => cases hd
    | cons h _ ih =>
      rw [pieces_append h.colon_not_mem, plainGroups?, List.mapM_cons, group?_eq_some_iff.mpr h,
        ← plainGroups?, ih]
      rfl

theorem groups?_eq_some_iff : groups? (pieces ':' cs) = some gs ↔ Groups true gs cs := by
  constructor
  · intro h
    have hgroups := groups_of_mixed (pieces_ne_nil ':' cs) h
    rwa [joinWith_pieces] at hgroups
  · intro h
    induction h with
    | @group g cs h =>
      have hnot : Ip4.read? cs = none := by
        by_contra hsome
        obtain ⟨ip, hip⟩ := Option.ne_none_iff_exists'.mp hsome
        exact h.not_written ip (Ip4.read?_eq_some_iff.mp hip)
      rw [pieces_of_not_mem h.colon_not_mem, groups?, hnot, group?_eq_some_iff.mpr h]
      rfl
    | embedded _ h =>
      rw [pieces_of_not_mem h.colon_not_mem, groups?, Ip4.read?_eq_some_iff.mpr h]
    | @cons g gs cs rest h _ ih =>
      obtain ⟨next, parts, hparts⟩ := List.exists_cons_of_ne_nil (pieces_ne_nil ':' rest)
      rw [pieces_append h.colon_not_mem, hparts, groups?, ← hparts, ih, group?_eq_some_iff.mpr h]
      · rfl
      · exact List.cons_ne_nil next parts

/-! The gap -/

private theorem Groups.exists_head (h : Groups dotted gs cs) : ∃ c rest, cs = c :: rest ∧ c ≠ ':' := by
  have hhead {cs : List Char} (hne : cs ≠ []) (hcolon : ':' ∉ cs) (back : List Char) :
      ∃ c rest, cs ++ back = c :: rest ∧ c ≠ ':' := by
    obtain ⟨c, rest, rfl⟩ := List.exists_cons_of_ne_nil hne
    exact ⟨c, rest ++ back, rfl, fun hc => hcolon (hc ▸ .head rest)⟩
  cases h with
  | group h => simpa using hhead h.1.1 h.colon_not_mem []
  | embedded _ h => simpa using hhead (List.ne_nil_of_mem h.dot_mem) h.colon_not_mem []
  | cons h _ => exact hhead h.1.1 h.colon_not_mem _

private theorem side_iff {read : List (List Char) → Option (List UInt16)} (hnil : read [] = some [])
    (hread : ∀ cs gs, read (pieces ':' cs) = some gs ↔ Groups dotted gs cs) :
    read (colonParts cs) = some gs ↔ Side dotted gs cs := by
  unfold Side
  cases cs with
  | nil =>
    have hnone : ¬Groups dotted gs [] := fun h => by simpa using h.exists_head
    simp [colonParts, hnil, hnone, eq_comm]
  | cons c cs => simp [colonParts, hread]

theorem side_plain_iff : plainGroups? (colonParts cs) = some gs ↔ Side false gs cs :=
  side_iff rfl fun _ _ => plainGroups?_eq_some_iff

theorem side_mixed_iff : groups? (colonParts cs) = some gs ↔ Side true gs cs :=
  side_iff rfl fun _ _ => groups?_eq_some_iff

private def before (cs : List Char) (found : List Char × List Char) : List Char × List Char :=
  (cs ++ found.1, found.2)

private theorem splitGap_cons {c : Char} (h : c = ':' → cs.head? ≠ some ':') :
    splitGap (c :: cs) = (splitGap cs).map (before [c]) := by
  rw [splitGap]
  · rfl
  · rintro rest hc rfl
    exact h hc rfl

private theorem splitGap_append (h : ':' ∉ cs) (rest : List Char) :
    splitGap (cs ++ rest) = (splitGap rest).map (before cs) := by
  induction cs with
  | nil =>
    rw [List.nil_append]
    cases splitGap rest <;> rfl
  | cons c cs ih =>
    obtain ⟨hne, hcs⟩ : ':' ≠ c ∧ ':' ∉ cs := by simpa using h
    rw [List.cons_append, splitGap_cons fun hc => absurd hc.symm hne, ih hcs, Option.map_map]
    rfl

private theorem Groups.splitGap_append (h : Groups dotted gs cs) (rest : List Char) :
    splitGap (cs ++ rest) = (splitGap rest).map (before cs) := by
  induction h with
  | group h => exact NetBench.splitGap_append h.colon_not_mem rest
  | embedded _ h => exact NetBench.splitGap_append h.colon_not_mem rest
  | cons h hr ih =>
    obtain ⟨c, more, rfl, hc⟩ := hr.exists_head
    rw [List.append_assoc, List.cons_append, NetBench.splitGap_append h.colon_not_mem,
      splitGap_cons fun _ hcolon => hc (by simpa using hcolon), ih, Option.map_map, Option.map_map]
    congr 1
    funext found
    simp [before]

private theorem Side.splitGap (h : Side dotted gs fs) (bs : List Char) :
    splitGap (fs ++ ':' :: ':' :: bs) = some (fs, bs) := by
  rcases h with ⟨-, rfl⟩ | h
  · rfl
  · rw [h.splitGap_append]
    simp [NetBench.splitGap, before]

private theorem eq_of_splitGap (h : splitGap cs = some (fs, bs)) : cs = fs ++ ':' :: ':' :: bs := by
  fun_induction splitGap cs generalizing fs with
  | case1 cs =>
    obtain ⟨rfl, rfl⟩ : [] = fs ∧ cs = bs := by simpa using h
    rfl
  | case2 c cs _ ih =>
    obtain ⟨⟨front, back⟩, hfound, hboth⟩ := Option.map_eq_some_iff.mp h
    obtain ⟨rfl, rfl⟩ : c :: front = fs ∧ back = bs := by simpa using hboth
    rw [ih hfound, List.cons_append]
  | case3 => cases h

/-! IPv6 addresses -/

theorem Ip6.ofGroups?_eq_some_iff {ip : Ip6} : Ip6.ofGroups? gs = some ip ↔ ip.groups = gs := by
  unfold Ip6.ofGroups?
  constructor
  · intro h
    split at h
    · rw [← Option.some.inj h]
    · cases h
  · rintro rfl
    exact dif_pos ip.length_groups

theorem Ip6.read?_eq_some_iff {ip : Ip6} : Ip6.read? cs = some ip ↔ ip.Written cs := by
  have hlength := ip.length_groups
  constructor
  · intro h
    unfold Ip6.read? at h
    split at h
    · obtain ⟨gs, hgs, h⟩ := Option.bind_eq_some_iff.mp h
      obtain rfl := Ip6.ofGroups?_eq_some_iff.mp h
      rcases side_mixed_iff.mp hgs with ⟨hnil, -⟩ | hgroups
      · rw [hnil] at hlength
        cases hlength
      · exact .full hgroups
    · next fs bs hgap =>
      obtain ⟨front, hf, h⟩ := Option.bind_eq_some_iff.mp h
      obtain ⟨back, hb, h⟩ := Option.bind_eq_some_iff.mp h
      dsimp only at h
      split at h
      · next hgiven =>
        rw [eq_of_splitGap hgap]
        exact .gap (Nat.sub_pos_of_lt hgiven) (Ip6.ofGroups?_eq_some_iff.mp h)
          (side_plain_iff.mp hf) (side_mixed_iff.mp hb)
      · cases h
  · intro h
    cases h with
    | full h =>
      have hgap : splitGap cs = none := by simpa [splitGap] using h.splitGap_append []
      rw [Ip6.read?, hgap, side_mixed_iff.mpr (.inr h)]
      exact Ip6.ofGroups?_eq_some_iff.mpr rfl
    | @gap front back zeros fs bs hz hg hf hb =>
      rw [hg, List.length_append, List.length_append, List.length_replicate] at hlength
      have hgiven : front.length + back.length < 8 := by omega
      have hzeros : 8 - (front.length + back.length) = zeros := by omega
      rw [Ip6.read?, hf.splitGap bs]
      simp only [side_plain_iff.mpr hf, side_mixed_iff.mpr hb, Option.bind_eq_bind, Option.bind_some]
      rw [if_pos hgiven, hzeros]
      exact Ip6.ofGroups?_eq_some_iff.mpr hg

/-! Either family -/

theorem Ip6.Written.colon_mem {ip : Ip6} (h : ip.Written cs) : ':' ∈ cs := by
  cases h with
  | full h =>
    -- One group, or two as an IPv4 address, are not eight.
    have hlength := ip.length_groups
    generalize ip.groups = gs at h hlength
    cases h with
    | group => cases hlength
    | embedded => cases hlength
    | cons => exact List.mem_append_right _ (.head _)
  | gap => exact List.mem_append_right _ (.head _)

/-- No text is an address of both families. -/
theorem Ip4.Written.not_written {ip : Ip4} (h : ip.Written cs) (ip' : Ip6) : ¬ip'.Written cs :=
  fun h' => h.colon_not_mem h'.colon_mem

def Ip.Written : Ip → List Char → Prop
  | .v4 ip => ip.Written
  | .v6 ip => ip.Written

theorem Ip.read?_eq_some_iff {ip : Ip} : Ip.read? cs = some ip ↔ ip.Written cs := by
  unfold Ip.read?
  cases h4 : Ip4.read? cs with
  | some ip4 =>
    have hwritten := Ip4.read?_eq_some_iff.mp h4
    cases ip with
    | v4 ip => simp [Ip.Written, ← Ip4.read?_eq_some_iff, h4]
    | v6 ip => exact iff_of_false nofun (hwritten.not_written ip)
  | none =>
    cases ip with
    | v4 ip => simp [Ip.Written, ← Ip4.read?_eq_some_iff, h4]
    | v6 ip => simp [Ip.Written, ← Ip6.read?_eq_some_iff]

end NetBench
