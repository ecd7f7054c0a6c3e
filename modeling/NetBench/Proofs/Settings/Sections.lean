import Mathlib
import NetBench.Proofs.Settings.Standing
import NetBench.Proofs.Toml.Proper

/-! When a section of a document is read. What stands in the place of a setting must stand for a
value of it, and an array must reach the settings that have no default. -/
namespace NetBench
open Toml

def Toml.Value.Empty (e : Toml.Value) : Prop := e = .table [] ∨ e = .array [] ∨ e = .tables []

def Toml.Value.items? : Toml.Value → Option (List Toml.Value)
  | .array items | .tables items => some items
  | _ => none

/-- What stands for a value of a kind in a file. A role may stand as a table with nothing under its
name. -/
def ValueKind.Denotes (e : Toml.Value) : (kind : ValueKind) → kind.Value → Prop
  | .path, s | .text, s => e = .string s
  | .role, r => e = .string r.name ∨ ∃ inner, inner.Empty ∧ e = .table [(r.name, inner)]
  | .byte, n => e = .integer n.toNat
  | .half, n => e = .integer n.toNat
  | .word, n => e = .integer n.toNat
  | .long, n => e = .integer n.toNat ∧ n.toNat < 2 ^ 63

namespace Schema

theorem roleNamed_eq_ok_iff {name : String} {r : Role} : roleNamed name = .ok r ↔ name = r.name := by
  unfold roleNamed
  constructor
  · intro h
    split at h
    · rename_i found hfound
      obtain rfl := Except.ok.inj h
      exact (Role.name_of_ofName? hfound).symm
    · cases h
  · rintro rfl
    rw [Role.ofName?_name]

theorem noContent_eq_ok_iff {e : Value} : noContent e = .ok () ↔ e.Empty := by
  unfold noContent Value.Empty
  split <;> simp_all

theorem role_eq_ok_iff {e : Value} {r : Role} :
    role e = .ok r ↔ e = .string r.name ∨ ∃ inner, inner.Empty ∧ e = .table [(r.name, inner)] := by
  unfold role
  split
  · simp [roleNamed_eq_ok_iff]
  · simp
  · rename_i name inner
    simp only [bind_eq_ok_iff, roleNamed_eq_ok_iff]
    constructor
    · rintro ⟨r', rfl, ⟨⟩, hinner, heq⟩
      obtain rfl := Except.ok.inj heq
      exact .inr ⟨inner, noContent_eq_ok_iff.mp hinner, rfl⟩
    · rintro (heq | ⟨inner', hinner, heq⟩)
      · cases heq
      · obtain ⟨rfl, rfl⟩ : name = r.name ∧ inner = inner' := by simpa using heq
        exact ⟨r, rfl, (), noContent_eq_ok_iff.mpr hinner, rfl⟩
  · simp_all
  · simp_all

private theorem map_natural {β : Type} {ofNat : Nat → β} {toNat : β → Nat} {shape : Shape} {bound : Nat}
    (hlt : ∀ x, toNat x < bound) (hof : ∀ x, ofNat (toNat x) = x)
    (hto : ∀ n, n < bound → toNat (ofNat n) = n) {e : Value} {x : β} :
    ofNat <$> natural shape bound e = .ok x ↔ e = .integer (toNat x) := by
  simp only [map_eq_ok_iff, natural_eq_ok_iff]
  constructor
  · rintro ⟨n, ⟨i, rfl, hlow, hhigh, rfl⟩, rfl⟩
    rw [hto i.toNat (by omega), Int.toNat_of_nonneg hlow]
  · rintro rfl
    have hx := hlt x
    exact ⟨toNat x, ⟨toNat x, rfl, by omega, by omega, by omega⟩, hof x⟩

theorem decode_eq_ok_iff {e : Value} (he : e.Proper) (kind : ValueKind) (x : kind.Value) :
    kind.decode e = .ok x ↔ kind.Denotes e x := by
  have htext : ∀ s : String, text e = .ok s ↔ e = .string s := by
    intro s
    cases e <;> simp [text]
  cases kind with
  | path => exact htext x
  | role => exact role_eq_ok_iff
  | text => exact htext x
  | byte =>
    exact map_natural UInt8.toNat_lt (fun _ => UInt8.ofNat_toNat) fun _ h => UInt8.toNat_ofNat_of_lt h
  | half =>
    exact map_natural UInt16.toNat_lt (fun _ => UInt16.ofNat_toNat) fun _ h => UInt16.toNat_ofNat_of_lt h
  | word =>
    exact map_natural UInt32.toNat_lt (fun _ => UInt32.ofNat_toNat) fun _ h => UInt32.toNat_ofNat_of_lt h
  | long =>
    have hlong : long e = .ok x ↔ e = .integer x.toNat :=
      map_natural UInt64.toNat_lt (fun _ => UInt64.ofNat_toNat) fun _ h => UInt64.toNat_ofNat_of_lt h
    refine hlong.trans ⟨?_, And.left⟩
    rintro rfl
    cases he with
    | integer hlow hhigh => exact ⟨rfl, by omega⟩

variable {σ : Type} {fields : List (Field σ)} {entries : List (String × Value)} {s t : σ}

private theorem read_then_ok_iff {f : Field σ} {v : Value} {rest : σ → Except SchemaError σ} {P : Prop}
    (h : ∀ s, (∃ t, rest s = .ok t) ↔ P) :
    (∃ t, (f.read v >>= fun change => rest (change s)) = .ok t) ↔
      (∃ change, f.read v = .ok change) ∧ P := by
  simp only [bind_eq_ok_iff]
  constructor
  · rintro ⟨t, change, hread, hrest⟩
    exact ⟨⟨change, hread⟩, (h _).mp ⟨t, hrest⟩⟩
  · rintro ⟨⟨change, hread⟩, hp⟩
    obtain ⟨t, ht⟩ := (h (change s)).mpr hp
    exact ⟨t, change, hread, ht⟩

/-- Entries are read if each field takes what stands under its key. -/
theorem keyed_ok_iff (hn : (fields.map Field.key).Nodup) :
    (∃ t, keyed fields entries s = .ok t) ↔
      ∀ f ∈ fields, ∀ v, (f.key, v) ∈ entries → ∃ change, f.read v = .ok change := by
  have hfind : ∀ f ∈ fields, fields.find? (·.key == f.key) = some f := by
    intro f hf
    obtain ⟨before, after, rfl⟩ := List.append_of_mem hf
    exact find_key hn
  induction entries generalizing s with
  | nil => simp [keyed]
  | cons entry entries ih =>
    obtain ⟨key, v⟩ := entry
    have hcons : (∀ f ∈ fields, ∀ w, (f.key, w) ∈ (key, v) :: entries → ∃ change, f.read w = .ok change) ↔
        (∀ f ∈ fields, f.key = key → ∃ change, f.read v = .ok change) ∧
          ∀ f ∈ fields, ∀ w, (f.key, w) ∈ entries → ∃ change, f.read w = .ok change := by
      constructor
      · intro h
        exact ⟨fun f hf hk => h f hf v (by rw [hk]; exact .head _), fun f hf w hw => h f hf w (.tail _ hw)⟩
      · rintro ⟨hfirst, hrest⟩ f hf w hw
        rcases List.mem_cons.mp hw with heq | hw
        · obtain ⟨hk, rfl⟩ := Prod.mk.inj heq
          exact hfirst f hf hk
        · exact hrest f hf w hw
    rw [hcons, keyed]
    cases hkey : fields.find? (·.key == key) with
    | none =>
      refine ih.trans ⟨fun h => ⟨fun f hf heq => ?_, h⟩, And.right⟩
      exact absurd (beq_iff_eq.mpr heq) (List.find?_eq_none.mp hkey f hf)
    | some f =>
      -- The field with this key is the only one.
      obtain rfl : f.key = key := by simpa using List.find?_some hkey
      refine (read_then_ok_iff fun s => ih (s := s)).trans (and_congr_left fun _ => ?_)
      refine ⟨fun hread g hg heq => ?_, fun h => h f (List.mem_of_find?_eq_some hkey) rfl⟩
      have hg := hfind g hg
      rw [heq, hkey] at hg
      rwa [← Option.some.inj hg]

/-- Items are read if each is one that its field takes, and no required field is left without one. -/
theorem positional_ok_iff {shape : Shape} {count position : Nat} {items : List Value} :
    (∃ t, positional shape count position fields items s = .ok t) ↔
      (∀ item ∈ fields.zip items, ∃ change, item.1.read item.2 = .ok change) ∧
        ∀ f ∈ fields.drop items.length, f.required = false := by
  induction fields generalizing position items s with
  | nil => simp [positional]
  | cons f fields ih =>
    cases items with
    | nil =>
      cases hf : f.required with
      | true => simp [positional, hf]
      | false =>
        simp only [positional, hf, Bool.false_eq_true, if_false, ih]
        simp [hf]
    | cons v items =>
      rw [List.zip_cons_cons, List.forall_mem_cons, and_assoc]
      exact read_then_ok_iff fun s => ih (s := s)

/-- The field of a section that a setting is read from. -/
structure Stands (name : String) (f : Field σ) (o : Opt) : Prop where
  place : o.place? = some (name, f.key)
  reads : ∀ v, (∃ change, f.read v = .ok change) ↔ ∃ x, o.kind.decode v = .ok x
  required : f.required = true ↔ FileSettings.value? {} o = none

theorem map_ok_iff {ε α β : Type} {x : Except ε α} {f : α → β} :
    (∃ b, f <$> x = .ok b) ↔ ∃ a, x = .ok a := by
  cases x with
  | error e => exact iff_of_false nofun nofun
  | ok a => exact iff_of_true ⟨f a, rfl⟩ ⟨a, rfl⟩

theorem size_ok_iff {v : Value} : (∃ x, size v = .ok x) ↔ ∃ x, long v = .ok x := by
  simp only [size, long, map_ok_iff, natural_eq_ok_iff]

theorem stands_defaulted {X : Type} {name key : String} {default : X} {put : X → σ → σ}
    {read : Value → Except SchemaError X} (o : Opt)
    (hr : ∀ v, (∃ x, read v = .ok x) ↔ ∃ x, o.kind.decode v = .ok x := by exact fun _ => Iff.rfl)
    (hp : o.place? = some (name, key) := by rfl)
    (hq : FileSettings.value? {} o ≠ none := by simp [FileSettings.value?]) :
    ∃ o, Stands name (.defaulted key default read put : Field σ) o :=
  ⟨o, hp, fun v => map_ok_iff.trans (hr v), iff_of_false Bool.false_ne_true hq⟩

theorem stands_optional {X : Type} {name key : String} {put : Option X → σ → σ}
    {read : Value → Except SchemaError X} (o : Opt)
    (hr : ∀ v, (∃ x, read v = .ok x) ↔ ∃ x, o.kind.decode v = .ok x := by exact fun _ => Iff.rfl)
    (hp : o.place? = some (name, key) := by rfl)
    (hq : FileSettings.value? {} o = none := by rfl) :
    ∃ o, Stands name (.optional key read put : Field σ) o :=
  ⟨o, hp, fun v => map_ok_iff.trans (hr v), iff_of_true rfl hq⟩

/-- The field of a section that is read from fields of settings. -/
inductive Sectional : Field FileSettings → Prop where
  | mk {σ : Type} {fields : List (Field σ)} {name title : String} {default blank : σ}
      {put : σ → FileSettings → FileSettings} (hstands : ∀ f ∈ fields, ∃ o, Stands name f o)
      (hkeys : fields.map Field.key = sectionKeys name := by decide)
      (hn : (fields.map Field.key).Nodup := by decide) :
      Sectional (.defaulted name default (readSection title fields blank) put)

theorem generalFields_stand : ∀ f ∈ generalFields, ∃ o, Stands "general" f o := by
  simp only [generalFields, List.forall_mem_cons]
  exact ⟨stands_optional .role, List.forall_mem_nil _⟩

theorem serverFields_stand : ∀ f ∈ serverFields, ∃ o, Stands "server" f o := by
  simp only [serverFields, List.forall_mem_cons]
  exact ⟨stands_defaulted .listenHost, stands_defaulted .listenPort, stands_defaulted .queueDepth,
    stands_defaulted .readBufferSize fun _ => size_ok_iff, List.forall_mem_nil _⟩

theorem clientFields_stand : ∀ f ∈ clientFields, ∃ o, Stands "client" f o := by
  simp only [clientFields, List.forall_mem_cons]
  exact ⟨stands_defaulted .remoteHost, stands_defaulted .remotePort,
    stands_defaulted .writeBufferSize fun _ => size_ok_iff, stands_defaulted .fillerByte,
    stands_defaulted .greeting, stands_defaulted .reportIntervalUs, stands_optional .maxBytes,
    List.forall_mem_nil _⟩

theorem udpFields_stand : ∀ f ∈ udpFields, ∃ o, Stands "udp" f o := by
  simp only [udpFields, List.forall_mem_cons]
  exact ⟨stands_defaulted .udpBufferSize fun _ => size_ok_iff, stands_defaulted .udpTimeoutMs,
    stands_defaulted .udpIntervalMs, stands_optional .rounds, List.forall_mem_nil _⟩

theorem loggingFields_stand : ∀ f ∈ loggingFields, ∃ o, Stands "logging" f o := by
  simp only [loggingFields, List.forall_mem_cons]
  exact ⟨stands_defaulted .logLevel, List.forall_mem_nil _⟩

theorem fileFields_sectional : ∀ f ∈ fileFields, Sectional f := by
  simp only [fileFields, List.forall_mem_cons]
  exact ⟨.mk generalFields_stand, .mk serverFields_stand, .mk clientFields_stand,
    .mk udpFields_stand, .mk loggingFields_stand, List.forall_mem_nil _⟩

end Schema

/-- The settings that items in the place of a section leave out have defaults. -/
def Reaches (name : String) (items : List Toml.Value) : Prop :=
  ∀ o key, Opt.place? o = some (name, key) → key ∈ (sectionKeys name).drop items.length →
    FileSettings.value? {} o ≠ none

/-- What a section has in the places of its settings stands for values, and it leaves nothing out
that it may not. -/
structure Readable (name : String) (v : Toml.Value) : Prop where
  decodes : ∀ o key, Opt.place? o = some (name, key) → ∀ e,
    (key, e) ∈ sectionEntries (sectionKeys name) v → ∃ x, o.kind.decode e = .ok x
  reaches : ∀ items, v.items? = some items → Reaches name items

namespace Opt

theorem place?_inj {o p : Opt} {place : String × String} (h : o.place? = some place)
    (hp : p.place? = some place) : o = p := by
  have hfind : ∀ q : Opt, q.place? ≠ none → all.find? (fun r => r.place? == q.place?) = some q := by
    intro q hq
    cases q <;> first | exact absurd rfl hq | decide
  have ho := hfind o (by simp [h])
  rw [h, ← hp, hfind p (by simp [hp])] at ho
  exact (Option.some.inj ho).symm

theorem mem_sectionKeys {o : Opt} {name key : String} (h : o.place? = some (name, key)) :
    key ∈ sectionKeys name := by
  simp only [sectionKeys, List.mem_filterMap]
  exact ⟨(name, key), ⟨o, o.mem_all, h⟩, by simp⟩

end Opt

namespace Schema
variable {σ : Type} {fields : List (Field σ)} {name title key : String} {start : σ} {o : Opt} {f : Field σ}

theorem Stands.unique (hf : ∃ p, Stands name f p) (ho : o.place? = some (name, f.key)) :
    Stands name f o := by
  obtain ⟨p, hp⟩ := hf
  rwa [Opt.place?_inj ho hp.place]

/-- The table of a section is read if and only if its settings can be. -/
theorem keyed_ok_iff_decodes {entries : List (String × Value)}
    (hstands : ∀ f ∈ fields, ∃ o, Stands name f o) (hkeys : fields.map Field.key = sectionKeys name)
    (hn : (fields.map Field.key).Nodup) :
    (∃ t, keyed fields entries start = .ok t) ↔ ∀ o key, Opt.place? o = some (name, key) → ∀ e,
      (key, e) ∈ entries → ∃ x, o.kind.decode e = .ok x := by
  rw [keyed_ok_iff hn]
  constructor
  · intro h o key ho e he
    have hmem := Opt.mem_sectionKeys ho
    rw [← hkeys] at hmem
    obtain ⟨f, hf, rfl⟩ := List.mem_map.mp hmem
    exact ((Stands.unique (hstands f hf) ho).reads e).mp (h f hf e he)
  · intro h f hf e he
    obtain ⟨o, ho⟩ := hstands f hf
    exact (ho.reads e).mpr (h o f.key ho.place e he)

/-- The items of a section are read if and only if its settings can be and none is missing. -/
theorem positional_ok_iff_decodes {shape : Shape} {items : List Value}
    (hstands : ∀ f ∈ fields, ∃ o, Stands name f o) (hkeys : fields.map Field.key = sectionKeys name) :
    (∃ t, positional shape fields.length 0 fields items start = .ok t) ↔
      (∀ o key, Opt.place? o = some (name, key) → ∀ e, (key, e) ∈ (sectionKeys name).zip items →
        ∃ x, o.kind.decode e = .ok x) ∧ Reaches name items := by
  have hzip : ∀ key e, (key, e) ∈ (sectionKeys name).zip items ↔
      ∃ f, (f, e) ∈ fields.zip items ∧ f.key = key := by
    intro key e
    rw [← hkeys, List.zip_map_left, List.mem_map]
    constructor
    · rintro ⟨⟨f, w⟩, hmem, heq⟩
      obtain ⟨rfl, rfl⟩ := Prod.mk.inj heq
      exact ⟨f, hmem, rfl⟩
    · rintro ⟨f, hmem, rfl⟩
      exact ⟨(f, e), hmem, rfl⟩
  have hdrop : ∀ key, key ∈ (sectionKeys name).drop items.length ↔
      ∃ f ∈ fields.drop items.length, f.key = key := by
    intro key
    rw [← hkeys, ← List.map_drop, List.mem_map]
  rw [positional_ok_iff]
  constructor
  · rintro ⟨hreads, hrequired⟩
    constructor
    · intro o key ho e he
      obtain ⟨f, hmem, rfl⟩ := (hzip key e).mp he
      have hf := Stands.unique (hstands f (List.of_mem_zip hmem).1) ho
      exact (hf.reads e).mp (hreads (f, e) hmem)
    · intro o key ho hmem hnone
      obtain ⟨f, hleft, rfl⟩ := (hdrop key).mp hmem
      have hf := Stands.unique (hstands f (List.mem_of_mem_drop hleft)) ho
      have hfalse := hrequired f hleft
      rw [hf.required.mpr hnone] at hfalse
      cases hfalse
  · rintro ⟨hdecodes, hreaches⟩
    constructor
    · rintro ⟨f, e⟩ hmem
      obtain ⟨o, ho⟩ := hstands f (List.of_mem_zip hmem).1
      exact (ho.reads e).mpr (hdecodes o f.key ho.place e ((hzip f.key e).mpr ⟨f, hmem, rfl⟩))
    · intro f hleft
      obtain ⟨o, ho⟩ := hstands f (List.mem_of_mem_drop hleft)
      have hsome := hreaches o f.key ho.place ((hdrop f.key).mpr ⟨f, hleft, rfl⟩)
      rw [← Bool.not_eq_true, ho.required]
      exact hsome

/-- A table or an array is read as a section if and only if it is readable as one. -/
theorem Sectional.read_ok_iff {f : Field FileSettings} (hf : Sectional f) {v : Value}
    (hv : (∃ entries, v = .table entries) ∨ ∃ items, v.items? = some items) :
    (∃ change, f.read v = .ok change) ↔ Readable f.key v := by
  cases hf with
  | mk hstands hkeys hn =>
    refine map_ok_iff.trans ?_
    rcases hv with ⟨entries, rfl⟩ | ⟨items, hitems⟩
    · refine (keyed_ok_iff_decodes hstands hkeys hn).trans ⟨fun h => ⟨h, nofun⟩, fun h => h.decodes⟩
    · cases v with
      | array | tables =>
        refine (positional_ok_iff_decodes hstands hkeys).trans ⟨?_, ?_⟩
        · rintro ⟨hdecodes, hreaches⟩
          refine ⟨hdecodes, ?_⟩
          intro items hsome
          obtain rfl := Option.some.inj hsome
          exact hreaches
        · exact fun h => ⟨h.decodes, h.reaches _ rfl⟩
      | _ => cases hitems

end Schema

end NetBench
