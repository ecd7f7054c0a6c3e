import NetBench.Proofs.Options.Reading
import NetBench.Settings.Schema

/-! What a file sets. Each setting has one place in a document, a key of a section; what stands
there is its value, and nothing else in the document matters to it. -/
namespace NetBench
open Toml

/-- The section of a setting in a file, and its key there. A file does not name another file. -/
def Opt.place? : Opt → Option (String × String)
  | .config => none
  | .role => some ("general", "role")
  | .listenHost => some ("server", "host")
  | .listenPort => some ("server", "port")
  | .queueDepth => some ("server", "queue_depth")
  | .readBufferSize => some ("server", "read_buffer_size")
  | .remoteHost => some ("client", "host")
  | .remotePort => some ("client", "port")
  | .writeBufferSize => some ("client", "write_buffer_size")
  | .fillerByte => some ("client", "filler_byte")
  | .greeting => some ("client", "greeting")
  | .reportIntervalUs => some ("client", "report_interval_us")
  | .maxBytes => some ("client", "max_bytes")
  | .udpBufferSize => some ("udp", "buffer_size")
  | .udpTimeoutMs => some ("udp", "timeout_ms")
  | .udpIntervalMs => some ("udp", "interval_ms")
  | .rounds => some ("udp", "rounds")
  | .logLevel => some ("logging", "level")

/-- What stands under a key, the last time it comes up. -/
def lastUnder (key : String) : List (String × Value) → Option Value
  | [] => none
  | (k, v) :: entries => (lastUnder key entries).or (if k = key then some v else none)

/-- The keys of a section, in the order in which an array gives them. -/
def sectionKeys (name : String) : List String :=
  (Opt.all.filterMap Opt.place?).filterMap fun place => if place.1 = name then some place.2 else none

def sectionEntries (keys : List String) : Value → List (String × Value)
  | .table entries => entries
  | .array items | .tables items => keys.zip items
  | _ => []

/-- What a document has in the place of a setting. -/
def found? (entries : List (String × Value)) (o : Opt) : Option Value :=
  o.place?.bind fun (name, key) => (lastUnder name entries).bind fun v =>
    lastUnder key (sectionEntries (sectionKeys name) v)

def ValueKind.decode : (kind : ValueKind) → Toml.Value → Except SchemaError kind.Value
  | .path | .text => Schema.text
  | .role => Schema.role
  | .byte => Schema.byte
  | .half => Schema.half
  | .word => Schema.word
  | .long => Schema.long

/-- A document sets a setting to a value. -/
def Sets (entries : List (String × Value)) (o : Opt) (v : o.Value) : Prop :=
  ∃ e, found? entries o = some e ∧ o.kind.decode e = .ok v

def FileSettings.value? (f : FileSettings) : (o : Opt) → Option o.Value
  | .config => none
  | .role => f.general.role
  | .listenHost => some f.server.host
  | .listenPort => some f.server.port
  | .queueDepth => some f.server.queueDepth
  | .readBufferSize => some f.server.readBufferSize
  | .remoteHost => some f.client.host
  | .remotePort => some f.client.port
  | .writeBufferSize => some f.client.writeBufferSize
  | .fillerByte => some f.client.fillerByte
  | .greeting => some f.client.greeting
  | .reportIntervalUs => some f.client.reportIntervalUs
  | .maxBytes => f.client.maxBytes
  | .udpBufferSize => some f.udp.bufferSize
  | .udpTimeoutMs => some f.udp.timeoutMs
  | .udpIntervalMs => some f.udp.intervalMs
  | .rounds => f.udp.rounds
  | .logLevel => some f.logging.level

namespace Schema
variable {σ X : Type}

theorem map_eq_ok_iff {ε α β : Type} {x : Except ε α} {f : α → β} {b : β} :
    f <$> x = .ok b ↔ ∃ a, x = .ok a ∧ f a = b := by
  cases x with
  | error e => exact iff_of_false nofun nofun
  | ok a => simp [Functor.map, Except.map]

/-- What `get` reads is set by the fields with this key, as `dec` says, and left alone by the
others. -/
inductive Governed (get : σ → Option X) (dec : Value → Except SchemaError X) (key : String) :
    List (Field σ) → Prop where
  | nil : Governed get dec key []
  | own {required : Bool} {fill : σ → σ} {read : Value → Except SchemaError X} {put : X → σ → σ}
      {fields : List (Field σ)} (h : Governed get dec key fields)
      (hd : ∀ v x, read v = .ok x → dec v = .ok x := by exact fun _ _ h => h)
      (hp : ∀ x s, get (put x s) = some x := by exact fun _ _ => rfl) :
      Governed get dec key (⟨key, required, fill, fun v => put <$> read v⟩ :: fields)
  | other {Y : Type} {k : String} {required : Bool} {fill : σ → σ}
      {read : Value → Except SchemaError Y} {put : Y → σ → σ} {fields : List (Field σ)}
      (h : Governed get dec key fields)
      (hk : k ≠ key := by decide)
      (hp : ∀ x s, get (put x s) = get s := by exact fun _ _ => rfl) :
      Governed get dec key (⟨k, required, fill, fun v => put <$> read v⟩ :: fields)

variable {get : σ → Option X} {dec : Value → Except SchemaError X} {key : String}
  {fields : List (Field σ)} {s t : σ}

theorem Governed.read (h : Governed get dec key fields) {f : Field σ} (hf : f ∈ fields) {v : Value}
    {change : σ → σ} (hr : f.read v = .ok change) (s : σ) :
    if f.key = key then ∃ x, dec v = .ok x ∧ get (change s) = some x else get (change s) = get s := by
  induction h with
  | nil => cases hf
  | own _ hd hp ih =>
    cases hf with
    | head =>
      obtain ⟨x, hx, rfl⟩ := map_eq_ok_iff.mp hr
      rw [if_pos rfl]
      exact ⟨x, hd v x hx, hp x s⟩
    | tail _ hf => exact ih hf
  | other _ hk hp ih =>
    cases hf with
    | head =>
      obtain ⟨x, hx, rfl⟩ := map_eq_ok_iff.mp hr
      rw [if_neg hk]
      exact hp x s
    | tail _ hf => exact ih hf

/-- A setting as it is left by entries that were read: what the last entry under its key stands for,
or what it was. -/
def Left (get : σ → Option X) (dec : Value → Except SchemaError X) (key : String)
    (entries : List (String × Value)) (s t : σ) : Prop :=
  match lastUnder key entries with
  | none => get t = get s
  | some v => ∃ x, dec v = .ok x ∧ get t = some x

theorem keyed_left (hg : Governed get dec key fields) (hk : key ∈ fields.map Field.key)
    {entries : List (String × Value)} (h : keyed fields entries s = .ok t) :
    Left get dec key entries s t := by
  induction entries generalizing s with
  | nil =>
    obtain rfl : s = t := Except.ok.inj h
    exact rfl
  | cons entry entries ih =>
    obtain ⟨k, v⟩ := entry
    unfold keyed at h
    cases hf : fields.find? (·.key == k) with
    | none =>
      rw [hf] at h
      have hne : k ≠ key := by
        rintro rfl
        obtain ⟨f, hmem, hkey⟩ := List.mem_map.mp hk
        exact List.find?_eq_none.mp hf f hmem (beq_iff_eq.mpr hkey)
      have hrest := ih h
      unfold Left lastUnder
      rw [if_neg hne, Option.or_none]
      exact hrest
    | some f =>
      rw [hf] at h
      obtain ⟨change, hread, h⟩ := bind_eq_ok_iff.mp h
      have hkey : f.key = k := by simpa using List.find?_some hf
      have hchange := hg.read (List.mem_of_find?_eq_some hf) hread s
      have hrest := ih h
      unfold Left at hrest ⊢
      unfold lastUnder
      cases hlast : lastUnder key entries with
      | some v' =>
        rw [hlast] at hrest
        exact hrest
      | none =>
        rw [hlast] at hrest
        by_cases hown : k = key
        · rw [if_pos (hkey.trans hown)] at hchange
          obtain ⟨x, hx, hset⟩ := hchange
          rw [if_pos hown]
          exact ⟨x, hx, hrest.trans hset⟩
        · rw [if_neg (hkey ▸ hown)] at hchange
          rw [if_neg hown]
          exact hrest.trans hchange

private theorem positional_nil {shape : Shape} {count position : Nat}
    (h : positional shape count position fields [] s = .ok t) : s = t := by
  induction fields generalizing position with
  | nil => exact Except.ok.inj h
  | cons f fields ih =>
    unfold positional at h
    split at h
    · cases h
    · exact ih h

theorem find_key {before after : List (Field σ)} {f : Field σ}
    (hn : ((before ++ f :: after).map Field.key).Nodup) :
    (before ++ f :: after).find? (·.key == f.key) = some f := by
  rw [List.find?_eq_some_iff_append]
  refine ⟨by simp, before, after, rfl, ?_⟩
  intro g hg
  rw [List.map_append, List.nodup_append] at hn
  simpa using hn.2.2 g.key (List.mem_map_of_mem hg) f.key (.head _)

/-- Fields by position are fields by key, in the order of the keys. -/
theorem keyed_of_positional {shape : Shape} {count position : Nat} {before after : List (Field σ)}
    (hn : ((before ++ after).map Field.key).Nodup) {items : List Value}
    (h : positional shape count position after items s = .ok t) :
    keyed (before ++ after) ((after.map Field.key).zip items) s = .ok t := by
  induction after generalizing before position items s with
  | nil => exact h
  | cons f after ih =>
    cases items with
    | nil => exact congrArg Except.ok (positional_nil h)
    | cons v items =>
      obtain ⟨change, hread, h⟩ := bind_eq_ok_iff.mp h
      have hassoc : before ++ f :: after = (before ++ [f]) ++ after := by simp
      have hrest : keyed ((before ++ [f]) ++ after) _ (change s) = .ok t := ih (hassoc ▸ hn) h
      rw [← hassoc] at hrest
      rw [List.map_cons, List.zip_cons_cons, keyed, find_key hn]
      exact bind_eq_ok_iff.mpr ⟨change, hread, hrest⟩

/-- A section that was read leaves a setting as the entry in its place says, or as its field fills
it. -/
theorem section_left {name : String} (hg : Governed get dec key fields)
    (hk : key ∈ fields.map Field.key) (hn : (fields.map Field.key).Nodup) {v : Value}
    (h : readSection name fields s v = .ok t) :
    Left get dec key (sectionEntries (fields.map Field.key) v) (filled fields s) t := by
  cases v with
  | table entries => exact keyed_left hg hk h
  | array items | tables items =>
    have hkeyed : keyed ([] ++ fields) ((fields.map Field.key).zip items) (filled fields s) = .ok t :=
      keyed_of_positional hn h
    exact keyed_left hg hk hkeyed
  | datetime =>
    obtain rfl : filled fields s = t := Except.ok.inj h
    exact rfl
  | _ => cases h

theorem natural_eq_ok_iff {shape : Shape} {bound n : Nat} {v : Value} :
    natural shape bound v = .ok n ↔ ∃ i : Int, v = .integer i ∧ 0 ≤ i ∧ i < bound ∧ i.toNat = n := by
  cases v with
  | integer i =>
    by_cases hi : 0 ≤ i ∧ i < bound
    · simp [natural, hi]
    · simp only [natural, Bool.and_eq_true, decide_eq_true_eq, if_neg hi]
      refine iff_of_false nofun ?_
      rintro ⟨i', hi', hlow, hhigh, -⟩
      obtain rfl := Value.integer.inj hi'
      exact hi ⟨hlow, hhigh⟩
  | _ => exact iff_of_false nofun nofun

theorem long_of_size {v : Value} {x : UInt64} (h : size v = .ok x) : long v = .ok x := by
  obtain ⟨n, hn, rfl⟩ := map_eq_ok_iff.mp h
  exact map_eq_ok_iff.mpr ⟨n, natural_eq_ok_iff.mpr (natural_eq_ok_iff.mp hn), rfl⟩

/-- A file of which every section is absent has the default settings, whatever it is filled into. -/
theorem filled_fileFields (file : FileSettings) : filled fileFields file = {} := rfl

/-- A section without entries is what it is when it is absent: the defaults of its fields are those
of the section. -/
theorem read_empty_section : ∀ f ∈ fileFields, f.read (.table []) = .ok f.fill := by
  simp only [fileFields, List.forall_mem_cons]
  exact ⟨rfl, rfl, rfl, rfl, rfl, List.forall_mem_nil _⟩

/-- A part of a file's settings, with the section that it is read from, whose fields have the
defaults of that part. Alone it makes up `only`. -/
structure Placed (part : FileSettings → σ) (only : σ → FileSettings) (name title : String)
    (fields : List (Field σ)) (blank : σ) : Prop where
  governed : Governed (fun file => some (part file)) (readSection title fields blank) name fileFields
  listed : name ∈ fileFields.map Field.key := by decide
  filled_eq : ∀ s, filled fields s = part {} := by exact fun _ => rfl
  keys : fields.map Field.key = sectionKeys name := by decide
  distinct : (fields.map Field.key).Nodup := by decide

theorem placed_general :
    Placed FileSettings.general (fun general => { general }) "general" "GeneralConfig"
      generalFields {} where
  governed := .own <| .other <| .other <| .other <| .other .nil

theorem placed_server :
    Placed FileSettings.server (fun server => { server }) "server" "ServerConfig" serverFields
      {} where
  governed := .other <| .own <| .other <| .other <| .other .nil

theorem placed_client :
    Placed FileSettings.client (fun client => { client }) "client" "ClientConfig" clientFields
      {} where
  governed := .other <| .other <| .own <| .other <| .other .nil

theorem placed_udp : Placed FileSettings.udp (fun udp => { udp }) "udp" "UdpConfig" udpFields {} where
  governed := .other <| .other <| .other <| .own <| .other .nil

theorem placed_logging :
    Placed FileSettings.logging (fun logging => { logging }) "logging" "LoggingConfig"
      loggingFields {} where
  governed := .other <| .other <| .other <| .other <| .own .nil

/-- A setting of a file is what stands in its place, or what it is without a file. -/
def Standing (entries : List (String × Value)) (file : FileSettings) (o : Opt) : Prop :=
  match found? entries o with
  | none => file.value? o = FileSettings.value? {} o
  | some e => ∃ x, o.kind.decode e = .ok x ∧ file.value? o = some x

variable {entries : List (String × Value)} {file : FileSettings}

theorem Placed.standing {part : FileSettings → σ} {only : σ → FileSettings} {name title : String}
    {blank : σ} (hp : Placed part only name title fields blank)
    (h : FileSettings.ofEntries entries = .ok file) {o : Opt} (ho : o.place? = some (name, key))
    (hg : Governed (fun s => (only s).value? o) o.kind.decode key fields)
    (hv : ∀ file, FileSettings.value? file o = (only (part file)).value? o := by exact fun _ => rfl)
    (hk : key ∈ fields.map Field.key := by decide) : Standing entries file o := by
  have hfound : found? entries o = (lastUnder name entries).bind fun v =>
      lastUnder key (sectionEntries (sectionKeys name) v) := by
    simp only [found?, ho, Option.bind_some]
  have hpart := keyed_left hp.governed hp.listed h
  rw [filled_fileFields] at hpart
  unfold Left at hpart
  unfold Standing
  rw [hfound, hv, hv {}]
  cases hs : lastUnder name entries with
  | none =>
    simp only [hs, Option.some.injEq] at hpart
    rw [hpart]
    rfl
  | some v =>
    simp only [hs, Option.some.injEq] at hpart
    obtain ⟨x, hread, rfl⟩ := hpart
    have hsection := section_left hg hk hp.distinct hread
    rw [hp.keys, hp.filled_eq] at hsection
    exact hsection

/-- Of what stands in a document, each setting goes by what stands in its own place. -/
theorem standing_of_entries (h : FileSettings.ofEntries entries = .ok file) (o : Opt) :
    Standing entries file o := by
  cases o with
  | config => exact rfl
  | role => exact placed_general.standing h rfl (.own .nil)
  | listenHost => exact placed_server.standing h rfl (.own <| .other <| .other <| .other .nil)
  | listenPort => exact placed_server.standing h rfl (.other <| .own <| .other <| .other .nil)
  | queueDepth => exact placed_server.standing h rfl (.other <| .other <| .own <| .other .nil)
  | readBufferSize =>
    exact placed_server.standing h rfl
      (.other <| .other <| .other <| .own .nil fun _ _ => long_of_size)
  | remoteHost =>
    exact placed_client.standing h rfl
      (.own <| .other <| .other <| .other <| .other <| .other <| .other .nil)
  | remotePort =>
    exact placed_client.standing h rfl
      (.other <| .own <| .other <| .other <| .other <| .other <| .other .nil)
  | writeBufferSize =>
    exact placed_client.standing h rfl
      (.other <| .other <| .own (.other <| .other <| .other <| .other .nil) fun _ _ => long_of_size)
  | fillerByte =>
    exact placed_client.standing h rfl
      (.other <| .other <| .other <| .own <| .other <| .other <| .other .nil)
  | greeting =>
    exact placed_client.standing h rfl
      (.other <| .other <| .other <| .other <| .own <| .other <| .other .nil)
  | reportIntervalUs =>
    exact placed_client.standing h rfl
      (.other <| .other <| .other <| .other <| .other <| .own <| .other .nil)
  | maxBytes =>
    exact placed_client.standing h rfl
      (.other <| .other <| .other <| .other <| .other <| .other <| .own .nil)
  | udpBufferSize =>
    exact placed_udp.standing h rfl
      (.own (.other <| .other <| .other .nil) fun _ _ => long_of_size)
  | udpTimeoutMs => exact placed_udp.standing h rfl (.other <| .own <| .other <| .other .nil)
  | udpIntervalMs => exact placed_udp.standing h rfl (.other <| .other <| .own <| .other .nil)
  | rounds => exact placed_udp.standing h rfl (.other <| .other <| .other <| .own .nil)
  | logLevel => exact placed_logging.standing h rfl (.own .nil)

end Schema

/-- A file has the values that its document sets, and those of an empty file for the rest. -/
theorem FileSettings.value?_eq_some_iff {entries : List (String × Value)} {file : FileSettings}
    (h : ofEntries entries = .ok file) (o : Opt) (v : o.Value) :
    file.value? o = some v ↔
      Sets entries o v ∨ (∀ w, ¬Sets entries o w) ∧ FileSettings.value? {} o = some v := by
  have hstands := Schema.standing_of_entries h o
  unfold Schema.Standing at hstands
  unfold Sets
  cases he : found? entries o with
  | none =>
    simp only [he] at hstands
    simp [hstands]
  | some e =>
    simp only [he] at hstands
    obtain ⟨x, hx, hset⟩ := hstands
    rw [hset]
    simp [hx]

end NetBench
