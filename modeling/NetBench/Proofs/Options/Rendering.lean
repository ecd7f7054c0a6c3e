import Mathlib
import NetBench.Launch.Start
import NetBench.Proofs.Options.Reading
import NetBench.Proofs.Text.Numerals

/-! Command lines as renderings of what they give. The options that have a value stand in some
order, each once, in any of its spellings and with any text that writes its value. Reading takes
such a line back to the values, and takes nothing else, except that two dashes may stand at the end. -/
namespace NetBench
open Text

/-- A numeral with its sign. Where a minus is allowed, only zero may have one. -/
inductive Signed (minus : Bool) (n : Nat) : List Char → Prop where
  | bare {cs : List Char} (h : Numeral n cs) : Signed minus n cs
  | plus {cs : List Char} (h : Numeral n cs) : Signed minus n ('+' :: cs)
  | minus {cs : List Char} (hm : minus = true) (hn : n = 0) (h : Numeral n cs) :
      Signed minus n ('-' :: cs)

/-- The texts that write a value of a kind. -/
def ValueKind.Writes (s : String) : (kind : ValueKind) → kind.Value → Prop
  | .path, v => s = v ∧ s ≠ ""
  | .role, r => s = r.name
  | .text, v => s = v
  | .byte, n => Signed true n.toNat s.toList
  | .half, n => Signed true n.toNat s.toList
  | .word, n => Signed true n.toNat s.toList
  | .long, n => Signed false n.toNat s.toList

section Values
variable {minus : Bool} {bits n : Nat} {c : Char} {cs : List Char} {s : String}

theorem not_numeral_cons (hc : c.isDigit = false) : ¬Numeral n (c :: cs) := by
  intro h
  exact absurd (h.isDigit c (.head _)) (by simp [hc])

theorem natural?_eq_some_iff : natural? minus cs = some n ↔ Signed minus n cs := by
  unfold natural?
  split
  · rw [decimal?_eq_some_iff]
    constructor
    · exact .plus
    · intro h
      cases h with
      | bare h => exact absurd h (not_numeral_cons (by decide))
      | plus h => exact h
  · rename_i ds
    have hminus : Signed minus n ('-' :: ds) ↔ minus = true ∧ n = 0 ∧ Numeral n ds := by
      constructor
      · intro h
        cases h with
        | bare h => exact absurd h (not_numeral_cons (by decide))
        | minus hm hn h => exact ⟨hm, hn, h⟩
      · rintro ⟨hm, hn, h⟩
        exact .minus hm hn h
    rw [hminus]
    cases minus with
    | false => simp
    | true =>
      simp only [if_true, Option.filter_eq_some_iff, decimal?_eq_some_iff, beq_iff_eq, true_and]
      exact and_comm
  · rename_i hplus hminus
    rw [decimal?_eq_some_iff]
    constructor
    · exact .bare
    · intro h
      cases h with
      | bare h => exact h
      | plus h => exact absurd rfl (hplus _)
      | minus => exact absurd rfl (hminus _)

theorem word?_eq_some_iff : word? minus bits cs = some n ↔ Signed minus n cs ∧ n < 2 ^ bits := by
  rw [word?, Option.filter_eq_some_iff, natural?_eq_some_iff, decide_eq_true_iff]
  rfl

private theorem map_word? {β : Type} {ofNat : Nat → β} {toNat : β → Nat}
    (hlt : ∀ v, toNat v < 2 ^ bits) (hof : ∀ v, ofNat (toNat v) = v)
    (hto : ∀ n, n < 2 ^ bits → toNat (ofNat n) = n) (v : β) :
    (word? minus bits cs).map ofNat = some v ↔ Signed minus (toNat v) cs := by
  simp only [Option.map_eq_some_iff, word?_eq_some_iff]
  constructor
  · rintro ⟨n, ⟨h, hn⟩, rfl⟩
    rwa [hto n hn]
  · intro h
    exact ⟨toNat v, ⟨h, hlt v⟩, hof v⟩

theorem ValueKind.read?_eq_some_iff (kind : ValueKind) (v : kind.Value) :
    kind.read? s = some v ↔ kind.Writes s v := by
  cases kind with
  | path =>
    by_cases hs : s = ""
    · simp [read?, Writes, hs]
    · simp [read?, Writes, hs]
  | role =>
    constructor
    · exact fun h => (Role.name_of_ofName? h).symm
    · intro h
      rw [show s = v.name from h]
      exact Role.ofName?_name v
  | text => exact Option.some_inj
  | byte =>
    exact map_word? UInt8.toNat_lt (fun _ => UInt8.ofNat_toNat) (fun _ h => UInt8.toNat_ofNat_of_lt h) v
  | half =>
    exact map_word? UInt16.toNat_lt (fun _ => UInt16.ofNat_toNat) (fun _ h => UInt16.toNat_ofNat_of_lt h) v
  | word =>
    exact map_word? UInt32.toNat_lt (fun _ => UInt32.ofNat_toNat) (fun _ h => UInt32.toNat_ofNat_of_lt h) v
  | long =>
    exact map_word? UInt64.toNat_lt (fun _ => UInt64.ofNat_toNat) (fun _ h => UInt64.toNat_ofNat_of_lt h) v

end Values

/-- Arguments that spell texts of options, one after the other, and nothing else. -/
inductive Rendered : List (Opt × String) → List String → Prop where
  | nil : Rendered [] []
  | cons {o : Opt} {s : String} {gifts : List (Opt × String)} {front back : List String}
      (h : Spells o s front) (hb : Rendered gifts back) : Rendered ((o, s) :: gifts) (front ++ back)

/-- Texts that write the values of a line, in any order, with one for each option that has a value. -/
structure Written (line : CommandLine) (gifts : List (Opt × String)) : Prop where
  once : (gifts.map Prod.fst).Nodup
  writes : ∀ o s, (o, s) ∈ gifts → ∃ v, line o = some v ∧ o.kind.Writes s v
  all : ∀ o v, line o = some v → ∃ s, (o, s) ∈ gifts

/-- Arguments that give the values of a line and no other, in some order and spelling. -/
def Renders (line : CommandLine) (args : List String) : Prop :=
  ∃ gifts, Written line gifts ∧ Rendered gifts args

section Spelling
variable {gifts gifts' : List (Opt × String)} {args : List String}

theorem Rendered.spelled (h : Rendered gifts args) : Spelled gifts args := by
  induction h with
  | nil => exact .nil
  | cons h _ ih => exact .cons h ih

theorem Rendered.spelled_escape (h : Rendered gifts args) : Spelled gifts (args ++ ["--"]) := by
  induction h with
  | nil => exact .escape
  | cons h _ ih =>
    rw [List.append_assoc]
    exact .cons h ih

/-- What is spelled is rendered, up to two dashes at the end. -/
theorem Spelled.rendered (h : Spelled gifts args) :
    ∃ front, Rendered gifts front ∧ (args = front ∨ args = front ++ ["--"]) := by
  induction h with
  | nil => exact ⟨[], .nil, .inl rfl⟩
  | escape => exact ⟨[], .nil, .inr rfl⟩
  | @cons _ _ _ piece _ h _ ih =>
    obtain ⟨front, hfront, hargs⟩ := ih
    refine ⟨piece ++ front, .cons h hfront, ?_⟩
    rcases hargs with rfl | rfl
    · exact .inl rfl
    · exact .inr (List.append_assoc _ _ _).symm

/-- A rendering can be taken apart in one way only. -/
theorem Rendered.unique (h : Rendered gifts args) (h' : Rendered gifts' args) : gifts = gifts' := by
  induction h generalizing gifts' with
  | nil =>
    generalize hargs : ([] : List String) = args at h'
    cases h' with
    | nil => rfl
    | cons h' _ =>
      obtain ⟨a, tail, _, rfl, _⟩ := h'.opens
      cases hargs
  | @cons o s gifts front back h _ ih =>
    generalize hargs : front ++ back = args at h'
    cases h' with
    | nil =>
      obtain ⟨a, tail, _, rfl, _⟩ := h.opens
      cases hargs
    | cons h' hb' =>
      obtain ⟨hgift, rfl⟩ := h.unique h' hargs
      rw [hgift, ih hb']

/-- No rendering has two dashes alone among its arguments: they are no option and no value. -/
theorem Rendered.escape_not_mem (h : Rendered gifts args) : "--" ∉ args := by
  have hopening : opening? "--" = none := by decide
  have hstandalone : ¬Standalone "--" := fun h => absurd (h (by decide)) (by decide)
  induction h with
  | nil => simp
  | cons h _ ih =>
    rw [List.mem_append, not_or]
    refine ⟨?_, ih⟩
    rcases spells_iff.mp h with ⟨a, rfl, ha⟩ | ⟨a, rfl, ha, hs⟩
    · rw [List.mem_singleton]
      rintro rfl
      cases hopening.symm.trans ha
    · rw [List.mem_pair]
      rintro (rfl | rfl)
      · cases hopening.symm.trans ha
      · exact hstandalone hs

end Spelling

namespace CommandLine
variable {line : CommandLine} {gifts : List (Opt × String)} {args : List String}

/-- Texts are taken by a line if each is for an option of its own that has no value yet. -/
theorem giveAll_ok_iff :
    (∃ out, line.giveAll gifts = .ok out) ↔ (gifts.map Prod.fst).Nodup ∧
      ∀ o s, (o, s) ∈ gifts → line o = none ∧ ∃ v, o.kind.read? s = some v := by
  induction gifts generalizing line with
  | nil => simp [giveAll, pure, Except.pure]
  | cons gift gifts ih =>
    obtain ⟨o, s⟩ := gift
    have hgive : (∃ out, line.giveAll ((o, s) :: gifts) = .ok out) ↔
        line o = none ∧ ∃ v, o.kind.read? s = some v ∧ ∃ out, (line.set o v).giveAll gifts = .ok out := by
      simp only [giveAll, List.foldlM_cons, bind_eq_ok_iff, give_eq_ok_iff]
      grind
    rw [hgive, List.map_cons, List.nodup_cons]
    constructor
    · rintro ⟨hfree, v, hv, hout⟩
      obtain ⟨honce, hall⟩ := ih.mp hout
      have hnew : ∀ p t, (p, t) ∈ gifts → p ≠ o := by
        rintro p t hp rfl
        have := (hall p t hp).1
        simp at this
      refine ⟨⟨?_, honce⟩, ?_⟩
      · rw [List.mem_map]
        rintro ⟨⟨p, t⟩, hp, rfl⟩
        exact hnew p t hp rfl
      · intro p t hp
        rcases List.mem_cons.mp hp with heq | hp
        · obtain ⟨rfl, rfl⟩ := Prod.mk.inj heq
          exact ⟨hfree, v, hv⟩
        · obtain ⟨hline, hread⟩ := hall p t hp
          rw [set_other _ _ (hnew p t hp)] at hline
          exact ⟨hline, hread⟩
    · rintro ⟨⟨hnew, honce⟩, hall⟩
      obtain ⟨hfree, v, hv⟩ := hall o s (.head _)
      refine ⟨hfree, v, hv, ih.mpr ⟨honce, ?_⟩⟩
      intro p t hp
      obtain ⟨hline, hread⟩ := hall p t (.tail _ hp)
      have hne : p ≠ o := by
        rintro rfl
        exact hnew (List.mem_map.mpr ⟨_, hp, rfl⟩)
      rw [set_other _ _ hne]
      exact ⟨hline, hread⟩

/-- An empty line takes exactly the texts that write what it then holds. -/
theorem giveAll_empty_iff : empty.giveAll gifts = .ok line ↔ Written line gifts := by
  constructor
  · intro h
    obtain ⟨honce, hall⟩ := giveAll_ok_iff.mp ⟨line, h⟩
    have hline : ∀ o v, line o = some v ↔ ∃ s, (o, s) ∈ gifts ∧ o.kind.read? s = some v := by
      intro o v
      simp [giveAll_eq_ok h, empty]
    refine ⟨honce, ?_, ?_⟩
    · intro o s hs
      obtain ⟨-, v, hv⟩ := hall o s hs
      exact ⟨v, (hline o v).mpr ⟨s, hs, hv⟩, (ValueKind.read?_eq_some_iff _ v).mp hv⟩
    · intro o v hv
      obtain ⟨s, hs, -⟩ := (hline o v).mp hv
      exact ⟨s, hs⟩
  · intro h
    have hreads : ∀ o s, (o, s) ∈ gifts → ∃ v, line o = some v ∧ o.kind.read? s = some v := by
      intro o s hs
      obtain ⟨v, hv, hw⟩ := h.writes o s hs
      exact ⟨v, hv, (ValueKind.read?_eq_some_iff _ v).mpr hw⟩
    have htaken : ∃ out, empty.giveAll gifts = .ok out :=
      giveAll_ok_iff.mpr ⟨h.once, fun o s hs => ⟨rfl, (hreads o s hs).imp fun _ hv => hv.2⟩⟩
    obtain ⟨out, hout⟩ := htaken
    have heq : out = line := by
      funext o
      ext v
      simp only [giveAll_eq_ok hout, empty, reduceCtorEq, false_or]
      constructor
      · rintro ⟨s, hs, hr⟩
        obtain ⟨w, hw, hr'⟩ := hreads o s hs
        rwa [Option.some.inj (hr.symm.trans hr')]
      · intro hv
        obtain ⟨s, hs⟩ := h.all o v hv
        obtain ⟨w, hw, hr⟩ := hreads o s hs
        exact ⟨s, hs, by rw [hr, ← hw, hv]⟩
    rw [hout, heq]

theorem read_of_spelled (h : Spelled gifts args) : read args = .ok line ↔ Written line gifts := by
  have hread : read args = .ok line ↔ ∃ settled, empty.settle .nothing = .ok settled ∧
      settled.giveAll gifts = .ok line := readFrom_spelled h
  rw [hread, ← giveAll_empty_iff]
  simp [settle]

end CommandLine

section Values
variable {line : CommandLine} {gifts : List (Opt × String)} {o : Opt} {s : String} {v : o.Value}

theorem exists_signed (minus : Bool) (n : Nat) : ∃ s : String, Signed minus n s.toList :=
  ⟨String.ofList (Nat.toDigits 10 n), .bare ⟨0, String.toList_ofList⟩⟩

/-- Every value of a line is written by some text, unless it is an empty path. -/
theorem exists_writes (hpath : line .config ≠ some "") (h : line o = some v) :
    ∃ s, o.kind.Writes s v := by
  cases o with
  | config =>
    refine ⟨v, rfl, ?_⟩
    rintro rfl
    exact hpath h
  | role => exact ⟨_, rfl⟩
  | listenHost | remoteHost | greeting | logLevel => exact ⟨v, rfl⟩
  | listenPort | queueDepth | readBufferSize | remotePort | writeBufferSize | fillerByte
  | reportIntervalUs | maxBytes | udpBufferSize | udpTimeoutMs | udpIntervalMs | rounds =>
    exact exists_signed _ _

theorem exists_rendered (gifts : List (Opt × String)) : ∃ args, Rendered gifts args := by
  induction gifts with
  | nil => exact ⟨[], .nil⟩
  | cons gift gifts ih =>
    obtain ⟨args, hargs⟩ := ih
    exact ⟨_, .cons .longEquals hargs⟩

/-- A line has a rendering unless its path is empty. -/
theorem exists_renders_iff : (∃ args, Renders line args) ↔ line .config ≠ some "" := by
  constructor
  · rintro ⟨args, gifts, hw, -⟩ hempty
    obtain ⟨s, hs⟩ := hw.all .config "" hempty
    obtain ⟨v, hv, hpath⟩ := hw.writes .config s hs
    obtain rfl : v = "" := Option.some.inj (hv.symm.trans hempty)
    exact hpath.2 hpath.1
  · intro hpath
    have htext : ∀ o, ∃ s, ∀ v, line o = some v → o.kind.Writes s v := by
      intro o
      cases hv : line o with
      | none => exact ⟨"", nofun⟩
      | some v =>
        obtain ⟨s, hs⟩ := exists_writes hpath hv
        refine ⟨s, fun w hw => ?_⟩
        rwa [← Option.some.inj hw]
    choose text htext using htext
    have hmem : ∀ o s, (o, s) ∈ (Opt.all.filter fun o => (line o).isSome).map (fun o => (o, text o)) ↔
        (line o).isSome ∧ s = text o := by
      intro o s
      simp [Opt.mem_all]
      grind
    obtain ⟨args, hargs⟩ :=
      exists_rendered ((Opt.all.filter fun o => (line o).isSome).map fun o => (o, text o))
    refine ⟨args, _, ⟨?_, ?_, ?_⟩, hargs⟩
    · have honce : Opt.all.Nodup := by decide
      simpa [Function.comp_def] using honce.filter _
    · intro o s hs
      obtain ⟨hsome, rfl⟩ := (hmem o s).mp hs
      obtain ⟨v, hv⟩ := Option.isSome_iff_exists.mp hsome
      exact ⟨v, hv, htext o v hv⟩
    · intro o v hv
      exact ⟨text o, (hmem o _).mpr ⟨by simp [hv], rfl⟩⟩

theorem Written.nil : Written CommandLine.empty [] where
  once := .nil
  writes := nofun
  all := nofun

theorem Written.cons (ho : line o = none) (hs : o.kind.Writes s v) (h : Written line gifts) :
    Written (line.set o v) ((o, s) :: gifts) := by
  have hnew : ∀ p t, (p, t) ∈ gifts → p ≠ o := by
    rintro p t hp rfl
    obtain ⟨w, hw, -⟩ := h.writes p t hp
    rw [ho] at hw
    cases hw
  refine ⟨List.nodup_cons.mpr ⟨?_, h.once⟩, ?_, ?_⟩
  · rw [List.mem_map]
    rintro ⟨⟨p, t⟩, hp, rfl⟩
    exact hnew p t hp rfl
  · intro p t hp
    rcases List.mem_cons.mp hp with heq | hp
    · obtain ⟨rfl, rfl⟩ := Prod.mk.inj heq
      exact ⟨v, by simp, hs⟩
    · obtain ⟨w, hw, ht⟩ := h.writes p t hp
      exact ⟨w, by rw [CommandLine.set_other _ _ (hnew p t hp), hw], ht⟩
  · intro p w hw
    by_cases hp : p = o
    · subst hp
      exact ⟨s, .head _⟩
    · rw [CommandLine.set_other _ _ hp] at hw
      obtain ⟨t, ht⟩ := h.all p w hw
      exact ⟨t, .tail _ ht⟩

theorem Written.perm {gifts' : List (Opt × String)} (hp : gifts.Perm gifts') (h : Written line gifts) :
    Written line gifts' where
  once := (hp.map Prod.fst).nodup h.once
  writes o s hs := h.writes o s (hp.mem_iff.mpr hs)
  all o v hv := (h.all o v hv).imp fun _ hs => hp.mem_iff.mp hs

end Values

namespace CommandLine

theorem read_of_renders {line : CommandLine} {args : List String} (h : Renders line args) :
    read args = .ok line := by
  obtain ⟨gifts, hw, hr⟩ := h
  exact (read_of_spelled hr.spelled).mpr hw

/-- Reading takes every rendering of a line back to that line, so neither the order of the options
nor their spelling matters. It accepts nothing but renderings, up to two dashes at the end. -/
theorem read_inverts_rendering :
    (∀ (line : CommandLine) args, Renders line args →
      read args = .ok line ∧ line.logLevel = (line .logLevel).getD "info") ∧
    (∀ line args args', Renders line args → Renders line args' →
      ∀ (m : Type → Type) [Monad m] (content : String → m (Except Cause String)) shown,
        Launch.settings content shown args = Launch.settings content shown args') ∧
    (∀ line, (∃ args, Renders line args) ↔ line .config ≠ some "") ∧
    (∀ line args, read args = .ok line ↔
      ∃ front, (args = front ∨ args = front ++ ["--"]) ∧ Renders line front) ∧
    ∀ args gifts gifts' line line', Rendered gifts args → Written line gifts →
      Rendered gifts' args → Written line' gifts' → gifts = gifts' ∧ line = line' := by
  refine ⟨?_, ?_, fun _ => exists_renders_iff, ?_, ?_⟩
  · intro line args h
    exact ⟨read_of_renders h, rfl⟩
  · intro line args args' h h' m _ content shown
    simp only [Launch.settings, read_of_renders h, read_of_renders h']
  · intro line args
    constructor
    · intro h
      obtain ⟨gifts, hg⟩ := spelled_of_read h
      obtain ⟨front, hfront, hargs⟩ := hg.rendered
      exact ⟨front, hargs, gifts, (read_of_spelled hg).mp h, hfront⟩
    · rintro ⟨front, rfl | rfl, hfront⟩
      · exact read_of_renders hfront
      · obtain ⟨gifts, hw, hr⟩ := hfront
        exact (read_of_spelled hr.spelled_escape).mpr hw
  · intro args gifts gifts' line line' hr hw hr' hw'
    have hread := read_of_renders ⟨gifts, hw, hr⟩
    have hread' := read_of_renders ⟨gifts', hw', hr'⟩
    exact ⟨hr.unique hr', Except.ok.inj (hread.symm.trans hread')⟩

theorem read_inverts_rendering_reordered :
    Renders ((empty.set .role .udpClient).set .listenPort 80) ["-p=+080", "--role", "udp-client"] ∧
      Renders ((empty.set .role .udpClient).set .listenPort 80) ["-rudp-client", "--listen-port", "80"] ∧
      read ["-p=+080", "--role", "udp-client"] =
        .ok ((empty.set .role .udpClient).set .listenPort 80) ∧
      ∀ (content : String → Id (Except Cause String)) shown,
        Launch.settings content shown ["-p=+080", "--role", "udp-client"] =
          Launch.settings content shown ["-rudp-client", "--listen-port", "80"] := by
  have hname : Standalone "udp-client" := fun h => absurd h (by decide)
  have hport : Standalone "80" := fun h => absurd h (by decide)
  have hrole : Written (empty.set .role .udpClient) [(.role, "udp-client")] := .cons rfl rfl .nil
  have hplus : Opt.listenPort.kind.Writes "+080" 80 :=
    show Signed true 80 ['+', '0', '8', '0'] from .plus ⟨1, by decide⟩
  have hbare : Opt.listenPort.kind.Writes "80" 80 :=
    show Signed true 80 ['8', '0'] from .bare ⟨0, by decide⟩
  have hequals : Spells .listenPort "+080" ["-p=+080"] := .letterEquals (c := 'p') rfl
  have hjoined : Spells .role "udp-client" ["-rudp-client"] :=
    .letterJoined (c := 'r') rfl (by decide) (by decide)
  have hfirst : Renders ((empty.set .role .udpClient).set .listenPort 80)
      ["-p=+080", "--role", "udp-client"] :=
    ⟨_, .cons rfl hplus hrole, .cons hequals (.cons (.long hname) .nil)⟩
  have hsecond : Renders ((empty.set .role .udpClient).set .listenPort 80)
      ["-rudp-client", "--listen-port", "80"] :=
    ⟨_, (Written.cons rfl hbare hrole).perm (.swap _ _ _),
      .cons hjoined (.cons (.long hport) .nil)⟩
  exact ⟨hfirst, hsecond, (read_inverts_rendering.1 _ _ hfirst).1,
    read_inverts_rendering.2.1 _ _ _ hfirst hsecond Id⟩

/-- Two dashes at the end are accepted, and no rendering has them. -/
theorem escape_accepted :
    read ["--role", "tcp-server", "--"] = .ok (empty.set .role .tcpServer) ∧
      ∀ line, ¬Renders line ["--role", "tcp-server", "--"] := by
  constructor
  · have hw : Written (empty.set .role .tcpServer) [(.role, "tcp-server")] := .cons rfl rfl .nil
    have hr : Rendered [(.role, "tcp-server")] ["--role", "tcp-server"] :=
      .cons (.long (fun h => absurd h (by decide))) .nil
    exact (read_of_spelled hr.spelled_escape).mpr hw
  · rintro line ⟨gifts, -, hr⟩
    exact hr.escape_not_mem (by simp)

end CommandLine

end NetBench
