import NetBench.Proofs.Settings.Standing
import NetBench.Settings.Layers

/-! Three layers of settings. The command line goes before the file and the file before the
defaults, setting by setting; only then are the values looked at. The log level is the exception. -/
namespace NetBench
open Toml

def Settings.value? (s : Settings) : (o : Opt) → Option o.Value
  | .config => none
  | .role => some s.role
  | .listenHost => some s.listenHost
  | .listenPort => some s.listenPort
  | .queueDepth => some s.queueDepth
  | .readBufferSize => some s.readBufferSize
  | .remoteHost => some s.remoteHost
  | .remotePort => some s.remotePort
  | .writeBufferSize => some s.writeBufferSize
  | .fillerByte => some s.fillerByte
  | .greeting => some s.greeting
  | .reportIntervalUs => some s.reportIntervalUs
  | .maxBytes => s.maxBytes
  | .udpBufferSize => some s.udpBufferSize
  | .udpTimeoutMs => some s.udpTimeoutMs
  | .udpIntervalMs => some s.udpIntervalMs
  | .rounds => s.rounds
  | .logLevel => some s.logLevel

/-- The value that the layers choose for a setting. Roles have no default. -/
inductive Chosen (args : List String) (entries : List (String × Value)) (o : Opt) (v : o.Value) :
    Prop where
  | commandLine (h : Gives args o v)
  | file (hargs : ∀ w, ¬Gives args o w) (h : Sets entries o v)
  | default (hargs : ∀ w, ¬Gives args o w) (hfile : ∀ w, ¬Sets entries o w) (ho : o ≠ .role)
      (h : Settings.default.value? o = some v)

variable {args : List String} {entries : List (String × Value)} {line more : CommandLine}
  {file : FileSettings} {s : Settings}

theorem value?_empty (o : Opt) (v : o.Value) :
    FileSettings.value? {} o = some v ↔ o ≠ .role ∧ Settings.default.value? o = some v := by
  cases o <;> simp [FileSettings.value?, Settings.value?, Settings.default, FileSettings.settings]

/-- Layers that were read choose what they should. -/
theorem chosen_iff (h : CommandLine.read args = .ok line)
    (hf : FileSettings.ofEntries entries = .ok file) (o : Opt) (v : o.Value) :
    (line o).or (file.value? o) = some v ↔ Chosen args entries o v := by
  cases hl : line o with
  | some w =>
    have hgives : Gives args o w := (CommandLine.read_gives h o w).mp hl
    constructor
    · intro hw
      obtain rfl : w = v := Option.some.inj hw
      exact .commandLine hgives
    · intro hc
      cases hc with
      | commandLine hv =>
        have hv := (CommandLine.read_gives h o v).mpr hv
        rw [← hl, hv]
        rfl
      | file hargs => exact absurd hgives (hargs w)
      | default hargs => exact absurd hgives (hargs w)
  | none =>
    have hargs : ∀ w, ¬Gives args o w := by
      intro w hw
      have hw := (CommandLine.read_gives h o w).mpr hw
      rw [hl] at hw
      cases hw
    rw [Option.none_or, FileSettings.value?_eq_some_iff hf, value?_empty]
    constructor
    · rintro (hv | ⟨hfile, ho, hv⟩)
      · exact .file hargs hv
      · exact .default hargs hfile ho hv
    · intro hc
      cases hc with
      | commandLine hv => exact absurd hv (hargs v)
      | file _ hv => exact .inl hv
      | default _ hfile ho hv => exact .inr ⟨hfile, ho, hv⟩

/-- Layering is done setting by setting. -/
theorem value?_layer (line : CommandLine) (file : FileSettings) (role : Role) {o : Opt}
    (hc : o ≠ .config) (hr : o ≠ .role) (hl : o ≠ .logLevel) :
    (layer line file role).value? o = (line o).or (file.value? o) := by
  have hgetD {α : Type} (x : Option α) (d : α) : some (x.getD d) = x.or (some d) := by
    cases x <;> rfl
  cases o with
  | config => exact absurd rfl hc
  | role => exact absurd rfl hr
  | logLevel => exact absurd rfl hl
  | maxBytes | rounds => rfl
  | _ => exact hgetD _ _

/-- What makes settings unusable that have such values. -/
def Offends (has : (o : Opt) → o.Value → Prop) : Unusable → Prop
  | .queueDepth => has .queueDepth 0
  | .bufferSize => has .readBufferSize 0 ∨ has .writeBufferSize 0 ∨ has .udpBufferSize 0
  | .reportInterval => has .reportIntervalUs 0

/-- An offence, with none that is looked for before it. -/
def FirstOffence (has : (o : Opt) → o.Value → Prop) (what : Unusable) : Prop :=
  Offends has what ∧ match what with
    | .queueDepth => True
    | .bufferSize => ¬Offends has .queueDepth
    | .reportInterval => ¬Offends has .queueDepth ∧ ¬Offends has .bufferSize

theorem unusable?_eq_some_iff (s : Settings) (what : Unusable) :
    s.unusable? = some what ↔ FirstOffence (fun o v => s.value? o = some v) what := by
  unfold Settings.unusable? FirstOffence Offends
  by_cases hq : s.queueDepth = 0
  · cases what <;> simp [Settings.value?, hq]
  · by_cases hb : s.readBufferSize = 0 ∨ s.writeBufferSize = 0 ∨ s.udpBufferSize = 0
    · cases what <;> simp [Settings.value?, hq, hb, or_assoc]
    · by_cases hr : s.reportIntervalUs = 0
      · cases what <;> simp [Settings.value?, hq, hb, hr, or_assoc]
      · cases what <;> simp [Settings.value?, hq, hb, hr, or_assoc]

theorem exists_firstOffence {has : (o : Opt) → o.Value → Prop} :
    (∃ what, FirstOffence has what) ↔ ∃ what, Offends has what := by
  constructor
  · rintro ⟨what, ho, -⟩
    exact ⟨what, ho⟩
  · rintro ⟨what, ho⟩
    by_cases hq : Offends has .queueDepth
    · exact ⟨.queueDepth, hq, trivial⟩
    · by_cases hb : Offends has .bufferSize
      · exact ⟨.bufferSize, hb, hq⟩
      · cases what with
        | queueDepth => exact absurd ho hq
        | bufferSize => exact absurd ho hb
        | reportInterval => exact ⟨.reportInterval, ho, hq, hb⟩

theorem firstOffence_unique {has : (o : Opt) → o.Value → Prop} {what other : Unusable}
    (h : FirstOffence has what) (h' : FirstOffence has other) : what = other := by
  obtain ⟨ho, hfirst⟩ := h
  obtain ⟨ho', hfirst'⟩ := h'
  cases what <;> cases other <;> first | rfl | simp_all

theorem offends_congr {has has' : (o : Opt) → o.Value → Prop}
    (h : ∀ o, o ≠ .config → o ≠ .role → o ≠ .logLevel → ∀ v, has o v ↔ has' o v) (what : Unusable) :
    Offends has what ↔ Offends has' what := by
  cases what with
  | queueDepth => exact h .queueDepth nofun nofun nofun 0
  | bufferSize =>
    exact or_congr (h .readBufferSize nofun nofun nofun 0)
      (or_congr (h .writeBufferSize nofun nofun nofun 0) (h .udpBufferSize nofun nofun nofun 0))
  | reportInterval => exact h .reportIntervalUs nofun nofun nofun 0

/-- What resolving comes to: no role, a first offence, or the layered settings. -/
inductive Resolved (args : List String) (entries : List (String × Value)) (line : CommandLine)
    (file : FileSettings) : Except SettingsError Settings → Prop where
  | missingRole (h : ∀ role, ¬Chosen args entries .role role) :
      Resolved args entries line file (.error .missingRole)
  | invalid {role : Role} (h : Chosen args entries .role role) {what : Unusable}
      (hw : FirstOffence (Chosen args entries) what) :
      Resolved args entries line file (.error (.invalid what))
  | ok {role : Role} (h : Chosen args entries .role role)
      (hu : ∀ what, ¬Offends (Chosen args entries) what) :
      Resolved args entries line file (.ok (layer line file role))

theorem firstOffence_congr {has has' : (o : Opt) → o.Value → Prop}
    (h : ∀ o, o ≠ .config → o ≠ .role → o ≠ .logLevel → ∀ v, has o v ↔ has' o v) (what : Unusable) :
    FirstOffence has what ↔ FirstOffence has' what := by
  unfold FirstOffence
  cases what <;> simp only [offends_congr h]

section
variable (h : CommandLine.read args = .ok line) (hf : FileSettings.ofEntries entries = .ok file)
include h hf

/-- Layered settings have the values that the layers choose. -/
theorem value?_layer_iff {role : Role} (hr : Chosen args entries .role role) {o : Opt}
    (hc : o ≠ .config) (hl : o ≠ .logLevel) (v : o.Value) :
    (layer line file role).value? o = some v ↔ Chosen args entries o v := by
  by_cases ho : o = .role
  · subst ho
    have hrole := (chosen_iff h hf .role role).mpr hr
    rw [← chosen_iff h hf .role v, hrole]
    rfl
  · rw [value?_layer line file role hc ho hl]
    exact chosen_iff h hf o v

theorem resolved_resolve : Resolved args entries line file (resolve line file) := by
  have hchosen := chosen_iff h hf .role
  have hrole : (line .role).or (file.value? .role) = (line .role).or file.general.role := rfl
  unfold resolve
  cases hr : (line .role).or file.general.role with
  | none =>
    refine .missingRole ?_
    intro role hc
    have hsome := (hchosen role).mpr hc
    rw [hrole, hr] at hsome
    cases hsome
  | some role =>
    have hc : Chosen args entries .role role := (hchosen role).mp (hrole.trans hr)
    have hfirst (what : Unusable) := (unusable?_eq_some_iff (layer line file role) what).trans
      (firstOffence_congr (fun o ho _ hl v => value?_layer_iff h hf hc ho hl v) what)
    cases hu : (layer line file role).unusable? with
    | some what =>
      simp only [hu]
      exact .invalid hc ((hfirst what).mp hu)
    | none =>
      simp only [hu]
      refine .ok hc ?_
      intro what ho
      obtain ⟨first, hoffence⟩ := exists_firstOffence.mpr ⟨what, ho⟩
      have hsome := (hfirst first).mpr hoffence
      rw [hu] at hsome
      cases hsome

end

/-- Settings out of lines that differ in one option differ in no other setting. -/
theorem value?_layer_congr {line more : CommandLine} {o : Opt} (h : ∀ p, p ≠ o → more p = line p)
    (file : FileSettings) {role role' : Role} (hr : o ≠ .role → role' = role) {p : Opt} (hp : p ≠ o) :
    (layer more file role').value? p = (layer line file role).value? p := by
  by_cases hrole : p = .role
  · subst hrole
    rw [hr (Ne.symm hp)]
    rfl
  · by_cases hl : p = .logLevel
    · subst hl
      have hlevel : more.logLevel = line.logLevel := by
        rw [CommandLine.logLevel, CommandLine.logLevel, h .logLevel hp]
      simp only [Settings.value?, layer]
      rw [hlevel]
    · by_cases hc : p = .config
      · subst hc
        rfl
      · rw [value?_layer more file role' hc hrole hl, value?_layer line file role hc hrole hl, h p hp]

private theorem layer_of_resolve (h : resolve line file = .ok s) :
    ∃ role, (line .role).or file.general.role = some role ∧ s = layer line file role := by
  unfold resolve at h
  cases hr : (line .role).or file.general.role with
  | none =>
    rw [hr] at h
    cases h
  | some role =>
    cases hu : (layer line file role).unusable? with
    | some what =>
      simp only [hr, hu] at h
      cases h
    | none =>
      simp only [hr, hu] at h
      exact ⟨role, rfl, (Except.ok.inj h).symm⟩

/-- Settings that were resolved are usable. -/
theorem not_offends_of_resolve (h : resolve line file = .ok s) (what : Unusable) :
    ¬Offends (fun o v => s.value? o = some v) what := by
  obtain ⟨role, hrole, rfl⟩ := layer_of_resolve h
  intro ho
  obtain ⟨first, hfirst⟩ := exists_firstOffence.mpr ⟨what, ho⟩
  have hu := (unusable?_eq_some_iff _ first).mpr hfirst
  simp [resolve, hrole, hu] at h

private theorem value?_insert {front piece back : List String} {o : Opt} {text : String} {s' : Settings}
    (hp : Spells o text piece) (h : CommandLine.read (front ++ back) = .ok line)
    (hm : CommandLine.read (front ++ piece ++ back) = .ok more) (hs : resolve line file = .ok s)
    (hs' : resolve more file = .ok s') {p : Opt} (hpo : p ≠ o) : s'.value? p = s.value? p := by
  obtain ⟨-, hsame⟩ := CommandLine.read_insert hp h hm
  obtain ⟨role, hrole, rfl⟩ := layer_of_resolve hs
  obtain ⟨role', hrole', rfl⟩ := layer_of_resolve hs'
  refine value?_layer_congr hsame file ?_ hpo
  intro ho
  rw [hsame .role (Ne.symm ho), hrole] at hrole'
  exact (Option.some.inj hrole').symm

/-- Resolved settings have, one by one, the values that the layers choose: that of the command line
if it gives one, else that of the file if it sets one, else the default. There are settings if a
role is chosen, and no value among the chosen is unusable. If no role is chosen that is what is
reported, and else the first of the unusable values. One more option on the command line changes no
other setting. -/
theorem resolve_layers (h : CommandLine.read args = .ok line)
    (hf : FileSettings.ofEntries entries = .ok file) :
    (∀ s, resolve line file = .ok s → ∀ o, o ≠ .config → o ≠ .logLevel → ∀ v,
      s.value? o = some v ↔ Chosen args entries o v) ∧
    ((∃ s, resolve line file = .ok s) ↔ (∃ role, Chosen args entries .role role) ∧
      ∀ what, ¬Offends (Chosen args entries) what) ∧
    (∀ e, resolve line file = .error e ↔
      (e = .missingRole ∧ ∀ role, ¬Chosen args entries .role role) ∨
        ∃ what, e = .invalid what ∧ (∃ role, Chosen args entries .role role) ∧
          FirstOffence (Chosen args entries) what) ∧
    ∀ front piece back o text more s s', args = front ++ back → Spells o text piece →
      CommandLine.read (front ++ piece ++ back) = .ok more → resolve line file = .ok s →
      resolve more file = .ok s' → ∀ p, p ≠ o → s'.value? p = s.value? p := by
  have hresolved := resolved_resolve h hf
  refine ⟨?_, ?_, ?_, ?_⟩
  · intro s hs o hc hl v
    rw [hs] at hresolved
    cases hresolved with
    | ok hr => exact value?_layer_iff h hf hr hc hl v
  · generalize resolve line file = outcome at hresolved
    cases hresolved with
    | missingRole hr => exact iff_of_false nofun fun ⟨⟨role, hc⟩, _⟩ => hr role hc
    | @invalid role hr what hw => exact iff_of_false nofun fun ⟨_, hn⟩ => hn what hw.1
    | @ok role hr hu => exact iff_of_true ⟨_, rfl⟩ ⟨⟨role, hr⟩, hu⟩
  · intro e
    generalize resolve line file = outcome at hresolved
    cases hresolved with
    | missingRole hr =>
      constructor
      · rintro ⟨⟩
        exact .inl ⟨rfl, hr⟩
      · rintro (⟨rfl, -⟩ | ⟨_, _, ⟨role, hc⟩, _⟩)
        · rfl
        · exact absurd hc (hr role)
    | @invalid role hr what hw =>
      constructor
      · rintro ⟨⟩
        exact .inr ⟨what, rfl, ⟨role, hr⟩, hw⟩
      · rintro (⟨-, hno⟩ | ⟨other, rfl, _, hother⟩)
        · exact absurd hr (hno role)
        · rw [firstOffence_unique hw hother]
    | @ok role hr hu =>
      refine iff_of_false nofun ?_
      rintro (⟨-, hno⟩ | ⟨what, -, -, ho, -⟩)
      · exact hno role hr
      · exact hu what ho
  · rintro front piece back o text more s s' rfl hp hm hs hs' p hpo
    exact value?_insert hp h hm hs hs' hpo

/-- Two values on the command line. The file sets one of them too, to a value that no run can use. -/
def zeroOverridden : List String × List (String × Value) :=
  (["--role=tcp-client", "-l", "7", "--queue-depth", "2"],
    [("server", .table [("queue_depth", .integer 0), ("port", .integer 99)])])

theorem resolve_layers_zeroOverridden : ∃ line file s,
    CommandLine.read zeroOverridden.1 = .ok line ∧
    FileSettings.ofEntries zeroOverridden.2 = .ok file ∧ resolve line file = .ok s ∧
    Chosen zeroOverridden.1 zeroOverridden.2 .queueDepth 2 ∧
    Chosen zeroOverridden.1 zeroOverridden.2 .listenPort 99 ∧
    Chosen zeroOverridden.1 zeroOverridden.2 .greeting "Hello!" := by
  have h : CommandLine.read zeroOverridden.1 = .ok
      (((CommandLine.empty.set .role .tcpClient).set .writeBufferSize 7).set .queueDepth 2) := by
    rfl
  have hf : FileSettings.ofEntries zeroOverridden.2 =
      .ok { server := { queueDepth := 0, port := 99 } } := by
    rfl
  obtain ⟨hvalues, -⟩ := resolve_layers h hf
  have hs : resolve (((CommandLine.empty.set .role .tcpClient).set .writeBufferSize 7).set .queueDepth 2)
      { server := { queueDepth := 0, port := 99 } } = .ok { Settings.default with
        role := .tcpClient, writeBufferSize := 7, queueDepth := 2, listenPort := 99 } := by
    rfl
  exact ⟨_, _, _, h, hf, hs, (hvalues _ hs .queueDepth nofun nofun 2).mp rfl,
    (hvalues _ hs .listenPort nofun nofun 99).mp rfl,
    (hvalues _ hs .greeting nofun nofun "Hello!").mp rfl⟩

private theorem logLevel_of_gives (h : CommandLine.read args = .ok line) {level : String}
    (hg : Gives args .logLevel level) : line.logLevel = level := by
  rw [CommandLine.logLevel, (CommandLine.read_gives h .logLevel level).mpr hg]
  rfl

/-- The log level of the command line goes before that of the file, unless it is the default: that
counts as not given, and the file goes before it. -/
theorem resolve_logLevel (h : CommandLine.read args = .ok line)
    (hf : FileSettings.ofEntries entries = .ok file) (hs : resolve line file = .ok s) :
    (∀ level, Gives args .logLevel level → level ≠ "info" → s.logLevel = level) ∧
    ((∀ level, Gives args .logLevel level → level = "info") →
      (∀ level, Sets entries .logLevel level → s.logLevel = level) ∧
      ((∀ level, ¬Sets entries .logLevel level) → s.logLevel = "info")) := by
  obtain ⟨role, -, rfl⟩ := layer_of_resolve hs
  have hfile (level : String) := FileSettings.value?_eq_some_iff hf .logLevel level
  constructor
  · intro level hg hne
    have hlevel := logLevel_of_gives h hg
    rw [layer, hlevel]
    exact if_pos hne
  · intro hinfo
    have hlevel : line.logLevel = "info" := by
      cases hl : line .logLevel with
      | none =>
        rw [CommandLine.logLevel, hl]
        rfl
      | some level =>
        have hg : Gives args .logLevel level := (CommandLine.read_gives h .logLevel level).mp hl
        rw [logLevel_of_gives h hg]
        exact hinfo level hg
    have hlogged : (layer line file role).logLevel = file.logging.level := by
      rw [layer, hlevel]
      rfl
    constructor
    · intro level hset
      rw [hlogged]
      exact Option.some.inj ((hfile level).mpr (.inl hset))
    · intro hno
      rw [hlogged]
      exact Option.some.inj ((hfile "info").mpr (.inr ⟨hno, rfl⟩))

def levelOver (level : String) : List String × List (String × Value) :=
  (["--role", "tcp-server", "--log-level", level], [("logging", .table [("level", .string "debug")])])

theorem resolve_logLevel_traceGiven : ∃ line file s,
    CommandLine.read (levelOver "trace").1 = .ok line ∧
    FileSettings.ofEntries (levelOver "trace").2 = .ok file ∧ resolve line file = .ok s ∧
    Gives (levelOver "trace").1 .logLevel "trace" ∧ s.logLevel = "trace" := by
  have h : CommandLine.read (levelOver "trace").1 =
      .ok ((CommandLine.empty.set .role .tcpServer).set .logLevel "trace") := rfl
  have hf : FileSettings.ofEntries (levelOver "trace").2 = .ok { logging := { level := "debug" } } := rfl
  have hs : resolve ((CommandLine.empty.set .role .tcpServer).set .logLevel "trace")
      { logging := { level := "debug" } } = .ok { Settings.default with logLevel := "trace" } := rfl
  have hg : Gives (levelOver "trace").1 .logLevel "trace" :=
    (CommandLine.read_gives h .logLevel "trace").mp rfl
  exact ⟨_, _, _, h, hf, hs, hg, (resolve_logLevel h hf hs).1 "trace" hg (by decide)⟩

/-- The default level on the command line gives way to the file. -/
theorem resolve_logLevel_infoGiven : ∃ line file s,
    CommandLine.read (levelOver "info").1 = .ok line ∧
    FileSettings.ofEntries (levelOver "info").2 = .ok file ∧ resolve line file = .ok s ∧
    Gives (levelOver "info").1 .logLevel "info" ∧ s.logLevel ≠ "info" := by
  have h : CommandLine.read (levelOver "info").1 =
      .ok ((CommandLine.empty.set .role .tcpServer).set .logLevel "info") := rfl
  have hg : Gives (levelOver "info").1 .logLevel "info" :=
    (CommandLine.read_gives h .logLevel "info").mp rfl
  exact ⟨_, { logging := { level := "debug" } }, { Settings.default with logLevel := "debug" }, h, rfl,
    rfl, hg, by decide⟩

end NetBench
