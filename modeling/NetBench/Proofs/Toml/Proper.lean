import Mathlib
import NetBench.Toml.Reader

/-! What every document has that is read: integers of 64 bits, and no key twice in one table.
Building a document keeps this up, because a key is entered only where it is new. -/
namespace NetBench.Toml

/-- A value as documents have them. -/
inductive Value.Proper : Value → Prop where
  | string {s : String} : Proper (.string s)
  | integer {n : Int} (hlow : -2 ^ 63 ≤ n) (hhigh : n < 2 ^ 63) : Proper (.integer n)
  | float {x : Real} : Proper (.float x)
  | boolean {b : Bool} : Proper (.boolean b)
  | datetime : Proper .datetime
  | array {items : List Value} (h : ∀ v ∈ items, Proper v) : Proper (.array items)
  | tables {rows : List Value} (h : ∀ v ∈ rows, Proper v) : Proper (.tables rows)
  | table {entries : List (String × Value)} (hkeys : (entries.map Prod.fst).Nodup)
      (h : ∀ entry ∈ entries, Proper entry.2) : Proper (.table entries)

/-- A part of a document under construction, made of proper values. -/
inductive Slot.Proper : Slot → Prop where
  | leaf {v : Value} (h : v.Proper) : Proper (.leaf v)
  | branch {implicit dotted : Bool} {entries : List (String × Slot)}
      (hkeys : (entries.map Prod.fst).Nodup) (h : ∀ entry ∈ entries, Proper entry.2) :
      Proper (.branch implicit dotted entries)
  | rows {tables : List (List (String × Slot))} (hkeys : ∀ t ∈ tables, (t.map Prod.fst).Nodup)
      (h : ∀ t ∈ tables, ∀ entry ∈ t, Proper entry.2) : Proper (.rows tables)

theorem entryValues_eq_map (entries : List (String × Slot)) :
    entryValues entries = entries.map fun entry => (entry.1, entry.2.value) := by
  induction entries with
  | nil => rfl
  | cons entry entries ih => rw [entryValues, ih, List.map_cons]

theorem rowValues_eq_map (tables : List (List (String × Slot))) :
    rowValues tables = tables.map fun t => .table (entryValues t) := by
  induction tables with
  | nil => rfl
  | cons t tables ih => rw [rowValues, ih, List.map_cons]

private theorem entryValues_proper {entries : List (String × Slot)}
    (hkeys : (entries.map Prod.fst).Nodup) (h : ∀ entry ∈ entries, entry.2.value.Proper) :
    (Value.table (entryValues entries)).Proper := by
  rw [entryValues_eq_map]
  refine .table ?_ ?_
  · rw [List.map_map]
    exact hkeys
  · intro entry hentry
    obtain ⟨slot, hslot, rfl⟩ := List.mem_map.mp hentry
    exact h slot hslot

theorem Slot.Proper.value {s : Slot} (h : s.Proper) : s.value.Proper := by
  induction h with
  | leaf h => exact h
  | branch hkeys _ ih =>
    rw [Slot.value]
    exact entryValues_proper hkeys ih
  | rows hkeys _ ih =>
    rw [Slot.value, rowValues_eq_map]
    refine .tables ?_
    intro v hv
    obtain ⟨t, ht, rfl⟩ := List.mem_map.mp hv
    exact entryValues_proper (hkeys t ht) (ih t ht)

namespace Branch

/-- A table under construction with distinct keys and proper slots. -/
structure Proper (b : Branch) : Prop where
  keys : (b.entries.map Prod.fst).Nodup
  slots : ∀ entry ∈ b.entries, entry.2.Proper

theorem Proper.rows {b : Branch} {tables front : List (List (String × Slot))} (hb : b.Proper)
    (h : (Slot.rows tables).Proper) (hfront : ∀ t ∈ front, t ∈ tables) :
    (Slot.rows (front ++ [b.entries])).Proper := by
  cases h with
  | rows hkeys hslots =>
    have hcases : ∀ t ∈ front ++ [b.entries], t ∈ tables ∨ t = b.entries := by
      intro t ht
      rcases List.mem_append.mp ht with ht | ht
      · exact .inl (hfront t ht)
      · exact .inr (List.mem_singleton.mp ht)
    refine .rows ?_ ?_
    · intro t ht
      rcases hcases t ht with ht | rfl
      · exact hkeys t ht
      · exact hb.keys
    · intro t ht
      rcases hcases t ht with ht | rfl
      · exact hslots t ht
      · exact hb.slots

variable {b c : Branch} {key : String} {s : Slot} {path : List String}

theorem empty_proper : empty.Proper := ⟨.nil, List.forall_mem_nil _⟩

theorem Proper.slot (h : b.Proper) : b.slot.Proper := .branch h.keys h.slots

theorem not_mem_of_get? (h : b.get? key = none) : key ∉ b.entries.map Prod.fst := by
  rw [List.mem_map]
  rintro ⟨entry, hentry, rfl⟩
  simpa using List.lookup_eq_none_iff.mp h entry hentry

theorem Proper.get? (hb : b.Proper) (h : b.get? key = some s) : s.Proper := by
  obtain ⟨before, after, hentries, -⟩ := List.lookup_eq_some_iff.mp h
  exact hb.slots (key, s) (by simp [hentries])

theorem Proper.push (hb : b.Proper) (hnew : b.get? key = none) (hs : s.Proper) :
    (b.push key s).Proper where
  keys := by
    simp only [Branch.push, List.map_append, List.map_cons, List.map_nil]
    refine List.nodup_append.mpr ⟨hb.keys, List.nodup_singleton _, ?_⟩
    rintro k hk k' hk' rfl
    obtain rfl := List.mem_singleton.mp hk'
    exact not_mem_of_get? hnew hk
  slots entry hentry := by
    rcases List.mem_append.mp hentry with hentry | hentry
    · exact hb.slots entry hentry
    · obtain rfl := List.mem_singleton.mp hentry
      exact hs

theorem Proper.replace (hb : b.Proper) (hs : s.Proper) : (b.replace key s).Proper where
  keys := by
    have hfst : (b.replace key s).entries.map Prod.fst = b.entries.map Prod.fst := by
      rw [Branch.replace, List.map_map]
      refine List.map_congr_left fun entry _ => ?_
      simp only [Function.comp_apply]
      split <;> rfl
    rw [hfst]
    exact hb.keys
  slots entry hentry := by
    obtain ⟨old, hold, rfl⟩ := List.mem_map.mp hentry
    dsimp only
    split
    · exact hs
    · exact hb.slots old hold

theorem Proper.erase (hb : b.Proper) : (b.erase key).Proper where
  keys := hb.keys.sublist (List.filter_sublist.map _)
  slots entry hentry := hb.slots entry (List.mem_of_mem_filter hentry)

/-- What is done at the end of a path keeps a table proper if it does so there. -/
theorem within_proper {α : Type} {P : α → Prop} {dotted : Bool} {act : Branch → Option (Branch × α)}
    {a : α} (hact : ∀ b c a, b.Proper → act b = some (c, a) → c.Proper ∧ P a) (hb : b.Proper)
    (h : within dotted act path b = some (c, a)) : c.Proper ∧ P a := by
  induction path generalizing b c with
  | nil => exact hact b c a hb h
  | cons key path ih =>
    unfold within at h
    cases hget : b.get? key with
    | none =>
      rw [hget] at h
      obtain ⟨⟨d, a'⟩, hd, heq⟩ := Option.bind_eq_some_iff.mp h
      obtain ⟨rfl, rfl⟩ := Prod.mk.inj (Option.some.inj heq)
      have hnew : (Branch.mk true dotted []).Proper := ⟨.nil, List.forall_mem_nil _⟩
      obtain ⟨hd, ha⟩ := ih hnew hd
      exact ⟨hb.push hget hd.slot, ha⟩
    | some s =>
      have hs := hb.get? hget
      rw [hget] at h
      cases hs with
      | leaf => cases h
      | branch hkeys hslots =>
        dsimp only at h
        split at h
        · cases h
        · obtain ⟨⟨d, a'⟩, hd, heq⟩ := Option.bind_eq_some_iff.mp h
          obtain ⟨rfl, rfl⟩ := Prod.mk.inj (Option.some.inj heq)
          obtain ⟨hd, ha⟩ := ih ⟨hkeys, hslots⟩ hd
          exact ⟨hb.replace hd.slot, ha⟩
      | @rows tables hkeys hslots =>
        obtain ⟨t, ht, h⟩ := Option.bind_eq_some_iff.mp h
        obtain ⟨⟨d, a'⟩, hd, heq⟩ := Option.bind_eq_some_iff.mp h
        obtain ⟨rfl, rfl⟩ := Prod.mk.inj (Option.some.inj heq)
        have hlast := List.mem_of_getLast? ht
        obtain ⟨hd, ha⟩ := ih ⟨hkeys t hlast, hslots t hlast⟩ hd
        exact ⟨hb.replace (hd.rows (.rows hkeys hslots) fun t => List.mem_of_mem_dropLast), ha⟩

private theorem edit_proper {dotted : Bool} {act : Branch → Option (Branch × Unit)}
    (hact : ∀ t t', t.Proper → act t = some (t', ()) → t'.Proper) (hb : b.Proper)
    (h : ((within dotted act path b).bind fun result => some result.1) = some c) : c.Proper := by
  obtain ⟨⟨d, ⟨⟩⟩, hd, heq⟩ := Option.bind_eq_some_iff.mp h
  obtain rfl := Option.some.inj heq
  exact (within_proper (P := fun _ => True) (fun t t' _ ht h => ⟨hact t t' ht h, trivial⟩) hb hd).1

theorem insert_proper {v : Value} (hb : b.Proper) (hv : v.Proper) (h : b.insert path key v = some c) :
    c.Proper := by
  refine edit_proper ?_ hb h
  intro t t' ht hact
  split at hact
  · cases hact
  · split at hact
    · cases hact
    · rename_i hnew
      obtain ⟨rfl, -⟩ := Prod.mk.inj (Option.some.inj hact)
      exact ht.push (by simpa using hnew) (.leaf hv)

theorem openTable_proper {opened : Branch} (hb : b.Proper) (h : b.openTable path key = some (c, opened)) :
    c.Proper ∧ opened.Proper := by
  refine within_proper ?_ hb h
  intro t t' opened ht hact
  split at hact
  · obtain ⟨rfl, rfl⟩ := Prod.mk.inj (Option.some.inj hact)
    exact ⟨ht, empty_proper⟩
  · rename_i hget
    obtain ⟨rfl, rfl⟩ := Prod.mk.inj (Option.some.inj hact)
    cases ht.get? hget with
    | branch hkeys hslots => exact ⟨ht.erase, hkeys, hslots⟩
  · cases hact

theorem closeTable_proper {opened : Branch} (hb : b.Proper) (ho : opened.Proper)
    (h : b.closeTable path key opened = some c) : c.Proper := by
  refine edit_proper ?_ hb h
  intro t t' ht hact
  split at hact
  · rename_i hnew
    obtain ⟨rfl, -⟩ := Prod.mk.inj (Option.some.inj hact)
    exact ht.push hnew ho.slot
  · obtain ⟨rfl, -⟩ := Prod.mk.inj (Option.some.inj hact)
    exact ht.replace ho.slot
  · cases hact

theorem openRow_proper (hb : b.Proper) (h : b.openRow path key = some c) : c.Proper := by
  refine edit_proper ?_ hb h
  intro t t' ht hact
  split at hact
  · rename_i hnew
    obtain ⟨rfl, -⟩ := Prod.mk.inj (Option.some.inj hact)
    exact ht.push hnew (.rows (List.forall_mem_nil _) (List.forall_mem_nil _))
  · obtain ⟨rfl, -⟩ := Prod.mk.inj (Option.some.inj hact)
    exact ht
  · cases hact

theorem closeRow_proper {opened : Branch} (hb : b.Proper) (ho : opened.Proper)
    (h : b.closeRow path key opened = some c) : c.Proper := by
  refine edit_proper ?_ hb h
  intro t t' ht hact
  split at hact
  · rename_i hnew
    obtain ⟨rfl, -⟩ := Prod.mk.inj (Option.some.inj hact)
    have hnone : (Slot.rows []).Proper :=
      .rows (List.forall_mem_nil _) (List.forall_mem_nil _)
    have hrow : (Slot.rows ([] ++ [opened.entries])).Proper := ho.rows hnone (by simp)
    exact ht.push hnew hrow
  · rename_i hget
    obtain ⟨rfl, -⟩ := Prod.mk.inj (Option.some.inj hact)
    exact ht.replace (ho.rows (ht.get? hget) fun _ => id)
  · cases hact

end Branch

def Scan.Gives {α : Type} (item : Scan α) (P : α → Prop) : Prop :=
  ∀ cs a rest, item cs = some (a, rest) → P a

namespace Scan
variable {α : Type} {item : Scan α} {P : α → Prop}

theorem Gives.upTo (h : item.Gives P) (n : Nat) (cs : List Char) : ∀ a ∈ (item.upTo n cs).1, P a := by
  induction n generalizing cs with
  | zero => exact List.forall_mem_nil _
  | succ n ih =>
    unfold Scan.upTo
    cases hitem : item cs with
    | none => exact List.forall_mem_nil _
    | some got =>
      obtain ⟨a, rest⟩ := got
      exact List.forall_mem_cons.mpr ⟨h cs a rest hitem, ih rest⟩

theorem Gives.separated (h : item.Gives P) (sep : Char) (cs : List Char) :
    ∀ a ∈ (separated sep item cs).1, P a := by
  unfold Scan.separated
  cases hitem : item cs with
  | none => exact List.forall_mem_nil _
  | some got =>
    obtain ⟨a, rest⟩ := got
    refine List.forall_mem_cons.mpr ⟨h cs a rest hitem, Gives.upTo ?_ _ rest⟩
    intro cs a rest hnext
    cases cs with
    | nil => cases hnext
    | cons c cs =>
      dsimp only at hnext
      split at hnext
      · exact h cs a rest hnext
      · cases hnext

end Scan

theorem range_of_inRange? {m n : Int} (h : inRange? m = some n) : -2 ^ 63 ≤ n ∧ n < 2 ^ 63 := by
  unfold inRange? at h
  split at h
  · rename_i hm
    obtain rfl := Option.some.inj h
    simpa using hm
  · cases h

theorem integer?_range {cs : List Char} {n : Int} (h : integer? cs = some n) :
    -2 ^ 63 ≤ n ∧ n < 2 ^ 63 := by
  unfold integer? at h
  -- Every form of an integer ends in the same check.
  split at h
  all_goals
    obtain ⟨ds, -, h⟩ := Option.bind_eq_some_iff.mp h
    obtain ⟨m, -, h⟩ := Option.bind_eq_some_iff.mp h
    exact range_of_inRange? h

theorem scalar_proper : Scan.Gives scalar Value.Proper := by
  intro cs v rest h
  simp only [scalar] at h
  split at h
  · obtain ⟨rfl, -⟩ := Prod.mk.inj (Option.some.inj h)
    exact .boolean
  · split at h
    · obtain ⟨rfl, -⟩ := Prod.mk.inj (Option.some.inj h)
      exact .boolean
    · split at h
      · split at h
        · split at h
          · obtain ⟨rfl, -⟩ := Prod.mk.inj (Option.some.inj h)
            exact .datetime
          · obtain ⟨rfl, -⟩ := Prod.mk.inj (Option.some.inj h)
            exact .datetime
        · obtain ⟨rfl, -⟩ := Prod.mk.inj (Option.some.inj h)
          exact .datetime
      · split at h
        · rename_i n hn
          obtain ⟨rfl, -⟩ := Prod.mk.inj (Option.some.inj h)
          obtain ⟨hlow, hhigh⟩ := integer?_range hn
          exact .integer hlow hhigh
        · obtain ⟨x, -, heq⟩ := Option.map_eq_some_iff.mp h
          obtain ⟨rfl, -⟩ := Prod.mk.inj heq
          exact .float

section Nested
variable {value : Scan Value}

theorem pair_proper (h : value.Gives Value.Proper) :
    Scan.Gives (pair value) fun entry => entry.2.2.Proper := by
  intro cs entry rest hpair
  obtain ⟨⟨⟨path, last⟩, front⟩, -, hpair⟩ := Option.bind_eq_some_iff.mp hpair
  dsimp only at hpair
  split at hpair
  · obtain ⟨⟨v, back⟩, hv, hpair⟩ := Option.bind_eq_some_iff.mp hpair
    obtain ⟨rfl, -⟩ := Prod.mk.inj (Option.some.inj hpair)
    exact h _ v back hv
  · cases hpair

theorem arrayBody_proper (h : value.Gives Value.Proper) :
    Scan.Gives (arrayBody value) Value.Proper := by
  intro cs v rest harray
  unfold arrayBody at harray
  dsimp only at harray
  obtain ⟨back, -, harray⟩ := Option.bind_eq_some_iff.mp harray
  split at harray
  · obtain ⟨rfl, -⟩ := Prod.mk.inj (Option.some.inj harray)
    refine .array (Scan.Gives.separated ?_ _ _)
    intro cs v rest hitem
    obtain ⟨front, -, hitem⟩ := Option.bind_eq_some_iff.mp hitem
    obtain ⟨⟨w, back⟩, hw, hitem⟩ := Option.bind_eq_some_iff.mp hitem
    obtain ⟨after, -, hitem⟩ := Option.bind_eq_some_iff.mp hitem
    obtain ⟨rfl, -⟩ := Prod.mk.inj (Option.some.inj hitem)
    exact h _ w back hw
  · cases harray

theorem insertAll_proper {pairs : List (List String × String × Value)} {b c : Branch} (hb : b.Proper)
    (hpairs : ∀ entry ∈ pairs, entry.2.2.Proper)
    (h : pairs.foldlM (fun b (path, last, v) => b.insert path last v) b = some c) : c.Proper := by
  induction pairs generalizing b with
  | nil =>
    obtain rfl := Option.some.inj h
    exact hb
  | cons entry pairs ih =>
    obtain ⟨d, hd, h⟩ := Option.bind_eq_some_iff.mp h
    obtain ⟨hv, hpairs⟩ := List.forall_mem_cons.mp hpairs
    exact ih (Branch.insert_proper hb hv hd) hpairs h

theorem inlineBody_proper (h : value.Gives Value.Proper) :
    Scan.Gives (inlineBody value) Value.Proper := by
  intro cs v rest hinline
  obtain ⟨b, hb, hinline⟩ := Option.bind_eq_some_iff.mp hinline
  split at hinline
  · obtain ⟨rfl, -⟩ := Prod.mk.inj (Option.some.inj hinline)
    have hproper := insertAll_proper Branch.empty_proper ((pair_proper h).separated ',' cs) hb
    exact hproper.slot.value
  · cases hinline

end Nested

theorem value_proper (room : Nat) : Scan.Gives (value room) Value.Proper := by
  have hstring : ∀ cs v rest, (string cs).map (fun got => (Value.string got.1, got.2)) = some (v, rest) →
      v.Proper := by
    intro cs v rest h
    obtain ⟨got, -, heq⟩ := Option.map_eq_some_iff.mp h
    obtain ⟨rfl, -⟩ := Prod.mk.inj heq
    exact .string
  induction room with
  | zero =>
    intro cs v rest h
    unfold value at h
    split at h
    · exact hstring _ v rest h
    · exact hstring _ v rest h
    · cases h
    · cases h
    · exact scalar_proper cs v rest h
  | succ room ih =>
    intro cs v rest h
    unfold value at h
    split at h
    · exact hstring _ v rest h
    · exact hstring _ v rest h
    · exact arrayBody_proper ih _ v rest h
    · exact inlineBody_proper ih _ v rest h
    · exact scalar_proper cs v rest h

namespace Draft

/-- A draft of which both the root and the open table are proper. -/
structure Proper (d : Draft) : Prop where
  root : d.root.Proper
  current : d.current.Proper

variable {d e : Draft} {path : List String} {key : String}

theorem empty_proper : empty.Proper := ⟨Branch.empty_proper, Branch.empty_proper⟩

theorem Proper.close {b : Branch} (hd : d.Proper) (h : d.close = some b) : b.Proper := by
  unfold Draft.close at h
  split at h
  · obtain rfl := Option.some.inj h
    exact hd.current
  · exact Branch.closeTable_proper hd.root hd.current h
  · exact Branch.closeRow_proper hd.root hd.current h

theorem Proper.openTable (hd : d.Proper) (h : d.openTable path key = some e) : e.Proper := by
  obtain ⟨b, hb, h⟩ := Option.bind_eq_some_iff.mp h
  obtain ⟨⟨root, current⟩, hopen, h⟩ := Option.bind_eq_some_iff.mp h
  obtain rfl := Option.some.inj h
  obtain ⟨hroot, hcurrent⟩ := Branch.openTable_proper (hd.close hb) hopen
  exact ⟨hroot, hcurrent⟩

theorem Proper.openRow (hd : d.Proper) (h : d.openRow path key = some e) : e.Proper := by
  obtain ⟨b, hb, h⟩ := Option.bind_eq_some_iff.mp h
  obtain ⟨root, hopen, h⟩ := Option.bind_eq_some_iff.mp h
  obtain rfl := Option.some.inj h
  exact ⟨Branch.openRow_proper (hd.close hb) hopen, Branch.empty_proper⟩

theorem Proper.insert {v : Value} (hd : d.Proper) (hv : v.Proper) (h : d.insert path key v = some e) :
    e.Proper := by
  obtain ⟨current, hcurrent, h⟩ := Option.bind_eq_some_iff.mp h
  obtain rfl := Option.some.inj h
  exact ⟨hd.root, Branch.insert_proper hd.current hv hcurrent⟩

end Draft

theorem expression_proper {d e : Draft} {cs rest : List Char} (hd : d.Proper)
    (h : expression d cs = some (e, rest)) : e.Proper := by
  unfold expression at h
  split at h
  · obtain ⟨rfl, -⟩ := Prod.mk.inj (Option.some.inj h)
    exact hd
  · obtain ⟨rfl, -⟩ := Prod.mk.inj (Option.some.inj h)
    exact hd
  · obtain ⟨after, -, h⟩ := Option.bind_eq_some_iff.mp h
    obtain ⟨rfl, -⟩ := Prod.mk.inj (Option.some.inj h)
    exact hd
  · obtain ⟨⟨⟨path, last⟩, after⟩, -, h⟩ := Option.bind_eq_some_iff.mp h
    dsimp only at h
    split at h
    · obtain ⟨opened, hopen, h⟩ := Option.bind_eq_some_iff.mp h
      obtain ⟨after, -, h⟩ := Option.bind_eq_some_iff.mp h
      obtain ⟨rfl, -⟩ := Prod.mk.inj (Option.some.inj h)
      exact hd.openRow hopen
    · cases h
  · obtain ⟨⟨⟨path, last⟩, after⟩, -, h⟩ := Option.bind_eq_some_iff.mp h
    dsimp only at h
    split at h
    · obtain ⟨opened, hopen, h⟩ := Option.bind_eq_some_iff.mp h
      obtain ⟨after, -, h⟩ := Option.bind_eq_some_iff.mp h
      obtain ⟨rfl, -⟩ := Prod.mk.inj (Option.some.inj h)
      exact hd.openTable hopen
    · cases h
  · obtain ⟨⟨⟨path, last, v⟩, after⟩, hpair, h⟩ := Option.bind_eq_some_iff.mp h
    obtain ⟨entered, hinsert, h⟩ := Option.bind_eq_some_iff.mp h
    obtain ⟨after, -, h⟩ := Option.bind_eq_some_iff.mp h
    obtain ⟨rfl, -⟩ := Prod.mk.inj (Option.some.inj h)
    exact hd.insert (pair_proper (value_proper _) _ _ _ hpair) hinsert

theorem expressions_proper {n : Nat} {d e : Draft} {cs : List Char} (hd : d.Proper)
    (h : expressions n d cs = some e) : e.Proper := by
  induction n generalizing d cs with
  | zero => cases h
  | succ n ih =>
    unfold expressions at h
    split at h
    · obtain rfl := Option.some.inj h
      exact hd
    · obtain ⟨⟨d', rest⟩, hd', h⟩ := Option.bind_eq_some_iff.mp h
      exact ih (expression_proper hd hd') h

/-- Every document that is read is proper. -/
theorem read?_proper {text : String} {entries : List (String × Value)} (h : read? text = some entries) :
    (Value.table entries).Proper := by
  obtain ⟨d, hd, h⟩ := Option.bind_eq_some_iff.mp h
  obtain ⟨root, hroot, h⟩ := Option.bind_eq_some_iff.mp h
  obtain rfl := Option.some.inj h
  have hproper := (expressions_proper Draft.empty_proper hd).close hroot
  exact entryValues_proper hproper.keys fun entry hentry => (hproper.slots entry hentry).value

end NetBench.Toml
