import Mathlib
import NetBench.Proofs.Settings.Sections

/-! When a document is a file of settings, and of which. It is one if its sections can be read; then
each setting has the value that stands in its place. Nothing else in the document matters, nor does
the order in which it is written. -/
namespace NetBench
open Toml

def sectionNames : List String := ["general", "server", "client", "udp", "logging"]

/-- A document of which the sections are tables or arrays. -/
structure Sectioned (entries : List (String × Toml.Value)) : Prop where
  proper : (Value.table entries).Proper
  sections : ∀ name ∈ sectionNames, ∀ v, (name, v) ∈ entries →
    (∃ inner, v = .table inner) ∨ ∃ items, v.items? = some items

/-- The sections that are arrays leave nothing out that they may not. -/
def Reached (entries : List (String × Toml.Value)) : Prop :=
  ∀ name v items, (name, v) ∈ entries → v.items? = some items → Reaches name items

/-- A document has a value in the place of a setting. -/
def Has (entries : List (String × Toml.Value)) (o : Opt) (e : Toml.Value) : Prop :=
  ∃ name key v, o.place? = some (name, key) ∧ (name, v) ∈ entries ∧
    (key, e) ∈ sectionEntries (sectionKeys name) v

/-- A setting has the value that stands in its place, or else its default. -/
def Holds (entries : List (String × Toml.Value)) (file : FileSettings) (o : Opt) : Prop :=
  match found? entries o with
  | none => file.value? o = FileSettings.value? {} o
  | some e => ∃ x, o.kind.Denotes e x ∧ file.value? o = some x

theorem Opt.section_mem {o : Opt} {name key : String} (h : o.place? = some (name, key)) :
    name ∈ sectionNames := by
  cases o <;> cases h <;> decide

section Found
variable {entries : List (String × Toml.Value)} {name key : String} {v e : Toml.Value} {o : Opt}

theorem lastUnder_eq_some_iff (hn : (entries.map Prod.fst).Nodup) :
    lastUnder key entries = some v ↔ (key, v) ∈ entries := by
  induction entries generalizing v with
  | nil => simp [lastUnder]
  | cons entry entries ih =>
    obtain ⟨k, w⟩ := entry
    obtain ⟨hnew, hn⟩ := List.nodup_cons.mp hn
    rw [lastUnder, Option.or_eq_some_iff, ih hn, List.mem_cons, Prod.mk.injEq]
    by_cases hk : k = key
    · subst hk
      have hnone : lastUnder k entries = none := by
        cases hlast : lastUnder k entries with
        | none => rfl
        | some w => exact absurd (List.mem_map.mpr ⟨_, (ih hn).mp hlast, rfl⟩) hnew
      have hmem : (k, v) ∉ entries := fun h => hnew (List.mem_map.mpr ⟨_, h, rfl⟩)
      simp [hnone, hmem, eq_comm]
    · simp [hk, Ne.symm hk]

theorem zip_nodup (hname : name ∈ sectionNames) (items : List Toml.Value) :
    (((sectionKeys name).zip items).map Prod.fst).Nodup := by
  have hkeys : ∀ name ∈ sectionNames, (sectionKeys name).Nodup := by decide
  rw [List.zip_eq_zip_take_min, List.map_fst_zip (by simp)]
  exact (hkeys name hname).sublist (List.take_sublist _ _)

theorem sectionEntries_nodup (hname : name ∈ sectionNames) (hv : v.Proper) :
    ((sectionEntries (sectionKeys name) v).map Prod.fst).Nodup := by
  cases hv with
  | table hinner => exact hinner
  | array | tables => exact zip_nodup hname _
  | _ => exact .nil

theorem sectionEntries_proper {keys : List String} (hv : v.Proper) (h : (key, e) ∈ sectionEntries keys v) :
    e.Proper := by
  cases hv with
  | table _ hinner => exact hinner _ h
  | array hitems | tables hitems => exact hitems e (List.of_mem_zip h).2
  | _ => cases h

/-- Where no key comes up twice, what is found in a place is what the document has there. -/
theorem found?_eq_some_iff (hp : (Value.table entries).Proper) :
    found? entries o = some e ↔ Has entries o e := by
  cases hp with
  | table hn hvalues =>
    simp only [found?, Has, Option.bind_eq_some_iff, Prod.exists, lastUnder_eq_some_iff hn]
    constructor
    · rintro ⟨name, key, ho, v, hv, he⟩
      exact ⟨name, key, v, ho, hv,
        (lastUnder_eq_some_iff (sectionEntries_nodup (Opt.section_mem ho) (hvalues _ hv))).mp he⟩
    · rintro ⟨name, key, v, ho, hv, he⟩
      exact ⟨name, key, ho, v, hv,
        (lastUnder_eq_some_iff (sectionEntries_nodup (Opt.section_mem ho) (hvalues _ hv))).mpr he⟩

theorem proper_of_found? (hp : (Value.table entries).Proper) (h : found? entries o = some e) :
    e.Proper := by
  obtain ⟨name, key, v, -, hv, he⟩ := (found?_eq_some_iff hp).mp h
  cases hp with
  | table _ hvalues => exact sectionEntries_proper (hvalues _ hv) he

theorem holds_congr {entries' : List (String × Toml.Value)} (hp : (Value.table entries).Proper)
    (hp' : (Value.table entries').Proper) (h : ∀ o e, Has entries o e ↔ Has entries' o e)
    (file : FileSettings) (o : Opt) : Holds entries file o ↔ Holds entries' file o := by
  have hfound : found? entries o = found? entries' o := by
    ext e
    rw [found?_eq_some_iff hp, found?_eq_some_iff hp', h]
  unfold Holds
  rw [hfound]

end Found

namespace FileSettings
variable {entries : List (String × Toml.Value)} {file file' : FileSettings}

theorem ext_value? (h : ∀ o, file.value? o = file'.value? o) : file = file' := by
  obtain ⟨general, server, client, udp, logging⟩ := file
  obtain ⟨general', server', client', udp', logging'⟩ := file'
  have hgeneral : general = general' := by
    cases general
    cases general'
    have hrole := h .role
    simpa [value?] using hrole
  have hserver : server = server' := by
    cases server
    cases server'
    have hhost := h .listenHost
    have hport := h .listenPort
    have hdepth := h .queueDepth
    have hsize := h .readBufferSize
    simp_all [value?]
  have hclient : client = client' := by
    cases client
    cases client'
    have hhost := h .remoteHost
    have hport := h .remotePort
    have hsize := h .writeBufferSize
    have hfiller := h .fillerByte
    have hgreeting := h .greeting
    have hinterval := h .reportIntervalUs
    have hmax := h .maxBytes
    simp_all [value?]
  have hudp : udp = udp' := by
    cases udp
    cases udp'
    have hsize := h .udpBufferSize
    have htimeout := h .udpTimeoutMs
    have hinterval := h .udpIntervalMs
    have hrounds := h .rounds
    simp_all [value?]
  have hlogging : logging = logging' := by
    cases logging
    cases logging'
    have hlevel := h .logLevel
    simpa [value?] using hlevel
  rw [hgeneral, hserver, hclient, hudp, hlogging]

/-- A document is a file of settings if and only if its sections are readable. -/
theorem ofEntries_ok_iff_readable (h : Sectioned entries) :
    (∃ file, ofEntries entries = .ok file) ↔
      ∀ name ∈ sectionNames, ∀ v, (name, v) ∈ entries → Readable name v := by
  have hnames : Schema.fileFields.map Field.key = sectionNames := rfl
  have hkeyed : (∃ file, ofEntries entries = .ok file) ↔ _ := Schema.keyed_ok_iff (by decide)
  rw [hkeyed, ← hnames, List.forall_mem_map]
  refine forall₂_congr fun f hf => forall₂_congr fun v hv => ?_
  refine (Schema.fileFields_sectional f hf).read_ok_iff (h.sections f.key ?_ v hv)
  rw [← hnames]
  exact List.mem_map_of_mem hf

/-- A document is a file of settings if and only if what stands in the places of settings stands for
values of them, and its arrays are long enough. -/
theorem ofEntries_ok_iff (h : Sectioned entries) :
    (∃ file, ofEntries entries = .ok file) ↔
      (∀ o e, found? entries o = some e → ∃ x, o.kind.Denotes e x) ∧ Reached entries := by
  rw [ofEntries_ok_iff_readable h]
  constructor
  · intro hreadable
    constructor
    · intro o e he
      have hproper := proper_of_found? h.proper he
      obtain ⟨name, key, v, ho, hv, he⟩ := (found?_eq_some_iff h.proper).mp he
      obtain ⟨x, hx⟩ := (hreadable name (Opt.section_mem ho) v hv).decodes o key ho e he
      exact ⟨x, (Schema.decode_eq_ok_iff hproper _ x).mp hx⟩
    · intro name v items hv hitems o key ho
      exact (hreadable name (Opt.section_mem ho) v hv).reaches items hitems o key ho
  · rintro ⟨hdenotes, hreached⟩ name _ v hv
    refine ⟨?_, fun items => hreached name v items hv⟩
    intro o key ho e he
    have hfound := (found?_eq_some_iff h.proper).mpr ⟨name, key, v, ho, hv, he⟩
    obtain ⟨x, hx⟩ := hdenotes o e hfound
    exact ⟨x, (Schema.decode_eq_ok_iff (proper_of_found? h.proper hfound) _ x).mpr hx⟩

theorem holds_of_ofEntries (hp : (Value.table entries).Proper) (h : ofEntries entries = .ok file)
    (o : Opt) : Holds entries file o := by
  have hstands := Schema.standing_of_entries h o
  unfold Schema.Standing at hstands
  unfold Holds
  cases he : found? entries o with
  | none =>
    rw [he] at hstands
    exact hstands
  | some e =>
    rw [he] at hstands
    obtain ⟨x, hx, hvalue⟩ := hstands
    exact ⟨x, (Schema.decode_eq_ok_iff (proper_of_found? hp he) _ x).mp hx, hvalue⟩

/-- The values of settings are determined by what stands in their places. -/
theorem eq_of_holds (hp : (Value.table entries).Proper) (h : ∀ o, Holds entries file o)
    (h' : ∀ o, Holds entries file' o) : file = file' := by
  refine ext_value? fun o => ?_
  have ho := h o
  have ho' := h' o
  unfold Holds at ho ho'
  cases he : found? entries o with
  | none =>
    rw [he] at ho ho'
    exact ho.trans ho'.symm
  | some e =>
    rw [he] at ho ho'
    have hproper := proper_of_found? hp he
    obtain ⟨x, hx, hvalue⟩ := ho
    obtain ⟨x', hx', hvalue'⟩ := ho'
    rw [← Schema.decode_eq_ok_iff hproper] at hx hx'
    rw [hvalue, hvalue', Except.ok.inj (hx.symm.trans hx')]

/-- A document decodes to the file whose values stand in it, or are the defaults where none does. -/
theorem ofEntries_eq_ok_iff (h : Sectioned entries) :
    ofEntries entries = .ok file ↔ (∀ o, Holds entries file o) ∧ Reached entries := by
  constructor
  · intro hok
    exact ⟨holds_of_ofEntries h.proper hok, ((ofEntries_ok_iff h).mp ⟨file, hok⟩).2⟩
  · rintro ⟨hholds, hreached⟩
    have hdenotes : ∀ o e, found? entries o = some e → ∃ x, o.kind.Denotes e x := by
      intro o e he
      have ho := hholds o
      unfold Holds at ho
      rw [he] at ho
      obtain ⟨x, hx, -⟩ := ho
      exact ⟨x, hx⟩
    obtain ⟨file', hok⟩ := (ofEntries_ok_iff h).mpr ⟨hdenotes, hreached⟩
    rw [hok, eq_of_holds h.proper hholds (holds_of_ofEntries h.proper hok)]

end FileSettings

/-- Changes of a document that do not matter: another order of its sections or of the keys of one,
and leaving out a section or a key that is unknown. -/
inductive Immaterial : List (String × Toml.Value) → List (String × Toml.Value) → Prop where
  | order {entries entries' : List (String × Toml.Value)} (h : entries.Perm entries') :
      Immaterial entries entries'
  | keys {before after inner inner' : List (String × Toml.Value)} {name : String}
      (h : inner.Perm inner') :
      Immaterial (before ++ (name, .table inner) :: after) (before ++ (name, .table inner') :: after)
  | unknownSection {before after : List (String × Toml.Value)} {name : String} {v : Toml.Value}
      (h : name ∉ sectionNames) : Immaterial (before ++ (name, v) :: after) (before ++ after)
  | unknownKey {before after front back : List (String × Toml.Value)} {name key : String}
      {v : Toml.Value} (h : key ∉ sectionKeys name) :
      Immaterial (before ++ (name, .table (front ++ (key, v) :: back)) :: after)
        (before ++ (name, .table (front ++ back)) :: after)

section Changes
variable {entries entries' before after : List (String × Toml.Value)} {name : String} {v : Toml.Value}
  {o : Opt} {e : Toml.Value}

theorem has_insert : Has (before ++ (name, v) :: after) o e ↔ Has (before ++ after) o e ∨
    ∃ key, o.place? = some (name, key) ∧ (key, e) ∈ sectionEntries (sectionKeys name) v := by
  unfold Has
  constructor
  · rintro ⟨n, key, w, ho, hw, he⟩
    rcases List.perm_middle.mem_iff.mp hw with _ | ⟨_, hw⟩
    · exact .inr ⟨key, ho, he⟩
    · exact .inl ⟨n, key, w, ho, hw, he⟩
  · rintro (⟨n, key, w, ho, hw, he⟩ | ⟨key, ho, he⟩)
    · exact ⟨n, key, w, ho, List.perm_middle.mem_iff.mpr (.tail _ hw), he⟩
    · exact ⟨name, key, v, ho, by simp, he⟩

theorem reached_insert : Reached (before ++ (name, v) :: after) ↔
    Reached (before ++ after) ∧ ∀ items, v.items? = some items → Reaches name items := by
  unfold Reached
  constructor
  · intro h
    exact ⟨fun n w items hw => h n w items (List.perm_middle.mem_iff.mpr (.tail _ hw)),
      fun items => h name v items (by simp)⟩
  · rintro ⟨hrest, hv⟩ n w items hw
    rcases List.perm_middle.mem_iff.mp hw with _ | ⟨_, hw⟩
    · exact hv items
    · exact hrest n w items hw

/-- Changes that do not matter leave what stands in the places of settings. -/
theorem Immaterial.has (h : Immaterial entries entries') (o : Opt) (e : Toml.Value) :
    Has entries o e ↔ Has entries' o e := by
  cases h with
  | order h => simp only [Has, h.mem_iff]
  | keys h => simp only [has_insert, sectionEntries, h.mem_iff]
  | unknownSection h =>
    rw [has_insert]
    refine ⟨?_, .inl⟩
    rintro (hrest | ⟨key, ho, -⟩)
    · exact hrest
    · exact absurd (Opt.section_mem ho) h
  | unknownKey h =>
    simp only [has_insert, sectionEntries]
    refine or_congr Iff.rfl (exists_congr fun key => and_congr_right fun ho => ?_)
    rw [List.perm_middle.mem_iff, List.mem_cons, Prod.mk.injEq]
    refine ⟨?_, .inr⟩
    rintro (⟨rfl, rfl⟩ | hmem)
    · exact absurd (Opt.mem_sectionKeys ho) h
    · exact hmem

theorem Immaterial.reached (h : Immaterial entries entries') : Reached entries ↔ Reached entries' := by
  cases h with
  | order h => simp only [Reached, h.mem_iff]
  | keys | unknownKey =>
    simp only [reached_insert]
    exact and_congr_right fun _ => iff_of_true nofun nofun
  | unknownSection h =>
    rw [reached_insert]
    refine ⟨And.left, fun hrest => ⟨hrest, ?_⟩⟩
    intro items _ o key ho
    exact absurd (Opt.section_mem ho) h

theorem items_proper {items : List Toml.Value} (hp : v.Proper) (hv : v.items? = some items) :
    ∀ e ∈ items, e.Proper := by
  cases hp with
  | array h | tables h =>
    obtain rfl := Option.some.inj hv
    exact h
  | _ => cases hv

theorem Sectioned.table_of_items {items : List Toml.Value}
    (h : Sectioned (before ++ (name, v) :: after)) (hname : name ∈ sectionNames)
    (hv : v.items? = some items) :
    Sectioned (before ++ (name, .table ((sectionKeys name).zip items)) :: after) := by
  obtain ⟨hproper, hsections⟩ := h
  have hmem : ∀ n w, (n, w) ∈ before ++ (name, .table ((sectionKeys name).zip items)) :: after →
      w = .table ((sectionKeys name).zip items) ∨ (n, w) ∈ before ++ (name, v) :: after := by
    intro n w hw
    rcases List.perm_middle.mem_iff.mp hw with _ | ⟨_, hw⟩
    · exact .inl rfl
    · exact .inr (List.perm_middle.mem_iff.mpr (.tail _ hw))
  cases hproper with
  | table hkeys hvalues =>
    have hitems := items_proper (hvalues (name, v) (by simp)) hv
    have htable : (Value.table ((sectionKeys name).zip items)).Proper :=
      .table (zip_nodup hname items) fun entry hentry => hitems _ (List.of_mem_zip hentry).2
    refine ⟨.table (by simpa using hkeys) ?_, ?_⟩
    · rintro ⟨n, w⟩ hw
      rcases hmem n w hw with rfl | hw
      · exact htable
      · exact hvalues _ hw
    · intro n hn w hw
      rcases hmem n w hw with rfl | hw
      · exact .inl ⟨_, rfl⟩
      · exact hsections n hn w hw

/-- Documents decode alike if one is the other after a change that does not matter. -/
theorem ofEntries_of_immaterial {file : FileSettings} (h : Sectioned entries) (h' : Sectioned entries')
    (hi : Immaterial entries entries') :
    FileSettings.ofEntries entries = .ok file ↔ FileSettings.ofEntries entries' = .ok file := by
  rw [FileSettings.ofEntries_eq_ok_iff h, FileSettings.ofEntries_eq_ok_iff h', hi.reached]
  simp only [holds_congr h.proper h'.proper hi.has]

/-- A section that is an array is decoded as the table of its items, unless it leaves out what it
may not. -/
theorem ofEntries_items_iff {items : List Toml.Value} {file : FileSettings}
    (h : Sectioned (before ++ (name, v) :: after)) (hname : name ∈ sectionNames)
    (hv : v.items? = some items) :
    FileSettings.ofEntries (before ++ (name, v) :: after) = .ok file ↔ Reaches name items ∧
      FileSettings.ofEntries (before ++ (name, .table ((sectionKeys name).zip items)) :: after) =
        .ok file := by
  have htable := h.table_of_items hname hv
  have hentries : sectionEntries (sectionKeys name) v = (sectionKeys name).zip items := by
    cases v with
    | array | tables =>
      obtain rfl := Option.some.inj hv
      rfl
    | _ => cases hv
  have hhas : ∀ o e, Has (before ++ (name, v) :: after) o e ↔
      Has (before ++ (name, .table ((sectionKeys name).zip items)) :: after) o e := by
    intro o e
    rw [has_insert, has_insert, hentries]
    rfl
  have hreached : Reached (before ++ (name, v) :: after) ↔ Reaches name items ∧
      Reached (before ++ (name, .table ((sectionKeys name).zip items)) :: after) := by
    have hnone : (Value.table ((sectionKeys name).zip items)).items? = none := rfl
    simp only [reached_insert, hv, hnone, Option.some.injEq, forall_eq', reduceCtorEq, false_implies,
      implies_true, and_true]
    exact and_comm
  rw [FileSettings.ofEntries_eq_ok_iff h, FileSettings.ofEntries_eq_ok_iff htable, hreached]
  simp only [holds_congr h.proper htable.proper hhas]
  exact and_left_comm

end Changes

namespace FileSettings

/-- Decoding succeeds if and only if what stands in the places of settings stands for values of
them, and each setting then has that value or its default. Order and what is unknown do not matter,
and an array decodes as the table of its items if it leaves out nothing that has no default. -/
theorem decoding_exact :
    (∀ text entries, Toml.read? text = some entries → (Value.table entries).Proper) ∧
    (∀ entries, Sectioned entries →
      ((∃ file, ofEntries entries = .ok file) ↔
        (∀ o e, found? entries o = some e → ∃ x, o.kind.Denotes e x) ∧ Reached entries) ∧
      ∀ file, ofEntries entries = .ok file ↔ (∀ o, Holds entries file o) ∧ Reached entries) ∧
    (∀ entries : List (String × Toml.Value),
      (∀ name ∈ sectionNames, ∀ v, (name, v) ∈ entries → ∃ inner, v = .table inner) → Reached entries) ∧
    (∀ o, value? {} o = none ↔ o = .config ∨ o = .role ∨ o = .maxBytes ∨ o = .rounds) ∧
    (∀ entries entries', Sectioned entries → Sectioned entries' → Immaterial entries entries' →
      ∀ file, ofEntries entries = .ok file ↔ ofEntries entries' = .ok file) ∧
    ∀ before after name v items, Sectioned (before ++ (name, v) :: after) → name ∈ sectionNames →
      v.items? = some items → ∀ file,
        ofEntries (before ++ (name, v) :: after) = .ok file ↔ Reaches name items ∧
          ofEntries (before ++ (name, .table ((sectionKeys name).zip items)) :: after) = .ok file := by
  refine ⟨fun _ _ => Toml.read?_proper, ?_, ?_, ?_, ?_, ?_⟩
  · intro entries h
    exact ⟨ofEntries_ok_iff h, fun file => ofEntries_eq_ok_iff h⟩
  · intro entries h name v items hv hitems o key ho
    obtain ⟨inner, rfl⟩ := h name (Opt.section_mem ho) v hv
    cases hitems
  · intro o
    cases o <;> simp [value?]
  · intro entries entries' h h' hi file
    exact ofEntries_of_immaterial h h' hi
  · intro before after name v items h hname hv file
    exact ofEntries_items_iff h hname hv

def mixedDocument : List (String × Toml.Value) :=
  [("server", .table [("port", .integer 80), ("colour", .string "red")]),
    ("udp", .array [.integer 64, .integer 5, .integer 7, .integer 3])]

theorem sectioned_mixedDocument : Sectioned mixedDocument := by
  have hserver : (Value.table [("port", .integer 80), ("colour", .string "red")]).Proper :=
    .table (by decide) <| List.forall_mem_cons.mpr ⟨.integer (by decide) (by decide),
      List.forall_mem_cons.mpr ⟨.string, List.forall_mem_nil _⟩⟩
  have hudp : (Value.array [.integer 64, .integer 5, .integer 7, .integer 3]).Proper := by
    refine .array fun v hv => ?_
    simp only [List.mem_cons, List.not_mem_nil, or_false] at hv
    rcases hv with rfl | rfl | rfl | rfl <;> exact .integer (by decide) (by decide)
  refine ⟨.table (by decide) <| List.forall_mem_cons.mpr ⟨hserver,
    List.forall_mem_cons.mpr ⟨hudp, List.forall_mem_nil _⟩⟩, ?_⟩
  intro name _ v hv
  simp only [mixedDocument, List.mem_cons, List.not_mem_nil, or_false, Prod.mk.injEq] at hv
  rcases hv with ⟨-, rfl⟩ | ⟨-, rfl⟩
  · exact .inl ⟨_, rfl⟩
  · exact .inr ⟨_, rfl⟩

theorem decoding_exact_mixedDocument : ∃ file, ofEntries mixedDocument = .ok file ∧
    file.value? .listenPort = some 80 ∧ Holds mixedDocument file .rounds ∧
      ofEntries [("server", .table [("port", .integer 80), ("colour", .string "red")]),
        ("udp", .table [("buffer_size", .integer 64), ("timeout_ms", .integer 5),
          ("interval_ms", .integer 7), ("rounds", .integer 3)])] = .ok file := by
  obtain ⟨-, hdecodes, -, -, -, harrays⟩ := decoding_exact
  let file : FileSettings :=
    { server := { port := 80 },
      udp := { bufferSize := 64, timeoutMs := 5, intervalMs := 7, rounds := some 3 } }
  have hok : ofEntries mixedDocument = .ok file := rfl
  have hholds := ((hdecodes mixedDocument sectioned_mixedDocument).2 file).mp hok
  have htable := (harrays [_] [] "udp" _ _ sectioned_mixedDocument (by decide) rfl file).mp hok
  exact ⟨file, hok, rfl, hholds.1 .rounds, htable.2⟩

/-- Under the name of a role an empty array may stand, which is no table. -/
theorem empty_array_under_role :
    Sectioned [("general", .table [("role", .table [("tcp-server", .array [])])])] ∧
      (∀ r : Role, Toml.Value.table [("tcp-server", .array [])] ≠ .string r.name ∧
        Toml.Value.table [("tcp-server", .array [])] ≠ .table [(r.name, .table [])]) ∧
      ∃ file, ofEntries [("general", .table [("role", .table [("tcp-server", .array [])])])] = .ok file ∧
        file.value? .role = some .tcpServer := by
  have hone : ∀ key {v : Toml.Value}, v.Proper → (Toml.Value.table [(key, v)]).Proper := by
    intro key v hv
    exact .table (List.nodup_singleton _) (List.forall_mem_cons.mpr ⟨hv, List.forall_mem_nil _⟩)
  have hrole := hone "role" (hone "tcp-server" (.array (List.forall_mem_nil _)))
  refine ⟨⟨hone "general" hrole, ?_⟩, fun r => ⟨nofun, by simp⟩, _, rfl, rfl⟩
  intro name _ v hv
  simp only [List.mem_singleton, Prod.mk.injEq] at hv
  exact .inl ⟨_, hv.2⟩

end FileSettings

end NetBench
