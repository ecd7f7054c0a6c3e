import NetBench.Address.Reader
import NetBench.Launch.Start

/-! The start of a process, stage by stage: the command line, the file, its settings, the layers on
top of each other, and the address for its role. -/
namespace NetBench

def Settings.host (s : Settings) : String :=
  match s.role with
  | .tcpServer | .udpServer => s.listenHost
  | .tcpClient | .udpClient => s.remoteHost

namespace Launch

/-- How far a process gets: it stops without settings, it has them but no address for its role, or
it is ready to open a socket. -/
inductive Start where
  | stopped (stop : Stop)
  | unaddressed (s : Settings)
  | ready (s : Settings) (ip : Ip)

/-- The settings in the file that the command line names, or none if it names no file. -/
inductive Decodes (read : String → Except Cause String) : Option String → FileSettings → Prop where
  | without : Decodes read none {}
  | file {path text : String} {file : FileSettings} (hread : read path = .ok text)
      (hdecode : FileSettings.ofText text = .ok file) : Decodes read (some path) file

/-- The stages in their order, where `read` gives the content of files and `shown` is what is to be
shown of an error in one. A stage that fails ends the start, and the later ones have no say. -/
inductive Reaches (read : String → Except Cause String) (shown : String → FileError → String)
    (args : List String) : Start → Prop where
  | refused {why : Refusal} (hline : CommandLine.read args = .error why) :
      Reaches read shown args (.stopped (.refused why))
  | unreadable {line : CommandLine} {path : String} {cause : Cause}
      (hline : CommandLine.read args = .ok line) (hconfig : line .config = some path)
      (hread : read path = .error cause) :
      Reaches read shown args (.stopped (.unusable (.unreadable path cause)))
  | malformed {line : CommandLine} {path text : String} {why : FileError}
      (hline : CommandLine.read args = .ok line) (hconfig : line .config = some path)
      (hread : read path = .ok text) (hdecode : FileSettings.ofText text = .error why) :
      Reaches read shown args (.stopped (.unusable (.malformed path why.message (shown text why))))
  | unusable {line : CommandLine} {file : FileSettings} {why : SettingsError}
      (hline : CommandLine.read args = .ok line) (hfile : Decodes read (line .config) file)
      (hresolve : resolve line file = .error why) :
      Reaches read shown args (.stopped (.unusable why))
  | unaddressed {line : CommandLine} {file : FileSettings} {s : Settings} {why : Fault}
      (hline : CommandLine.read args = .ok line) (hfile : Decodes read (line .config) file)
      (hresolve : resolve line file = .ok s) (hhost : parseAddress s.host = .error why) :
      Reaches read shown args (.unaddressed s)
  | ready {line : CommandLine} {file : FileSettings} {s : Settings} {ip : Ip}
      (hline : CommandLine.read args = .ok line) (hfile : Decodes read (line .config) file)
      (hresolve : resolve line file = .ok s) (hhost : parseAddress s.host = .ok ip) :
      Reaches read shown args (.ready s ip)

def settingsOf (read : String → Except Cause String) (shown : String → FileError → String)
    (args : List String) : Except Stop Settings :=
  (settings (fun path => pure (read path)) shown args : Id _)

def Start.settings : Start → Except Stop Settings
  | .stopped stop => .error stop
  | .unaddressed s | .ready s _ => .ok s

variable {read : String → Except Cause String} {shown : String → FileError → String}
  {args : List String}

private def fileSettingsOf (read : String → Except Cause String)
    (shown : String → FileError → String) (path? : Option String) :
    Except SettingsError FileSettings :=
  (fileSettings (fun path => pure (read path)) shown path? : Id _)

private theorem Decodes.fileSettingsOf_eq {path? : Option String} {file : FileSettings}
    (h : Decodes read path? file) : fileSettingsOf read shown path? = .ok file := by
  cases h with
  | without => rfl
  | file hread hdecode =>
    simp only [fileSettingsOf, fileSettings, hread, pure_bind, hdecode]
    rfl

private theorem settingsOf_of_line {line : CommandLine} (hline : CommandLine.read args = .ok line) :
    settingsOf read shown args = match fileSettingsOf read shown (line .config) with
      | .error why => .error (.unusable why)
      | .ok file => (resolve line file).mapError .unusable := by
  simp only [settingsOf, settings, hline]
  rfl

private theorem settingsOf_of_file {line : CommandLine} {file : FileSettings}
    (hline : CommandLine.read args = .ok line) (hfile : Decodes read (line .config) file) :
    settingsOf read shown args = (resolve line file).mapError .unusable := by
  rw [settingsOf_of_line hline, hfile.fileSettingsOf_eq]

/-- The stages lead to the settings that the process takes. -/
theorem Reaches.settingsOf_eq {start : Start} (h : Reaches read shown args start) :
    settingsOf read shown args = start.settings := by
  cases h with
  | refused hline =>
    simp only [settingsOf, settings, hline]
    rfl
  | unreadable hline hconfig hread =>
    simp only [settingsOf_of_line hline, hconfig, fileSettingsOf, fileSettings, hread, pure_bind]
    rfl
  | malformed hline hconfig hread hdecode =>
    simp only [settingsOf_of_line hline, hconfig, fileSettingsOf, fileSettings, hread, pure_bind,
      hdecode]
    rfl
  | unusable hline hfile hresolve =>
    rw [settingsOf_of_file hline hfile, hresolve]
    rfl
  | unaddressed hline hfile hresolve _ =>
    rw [settingsOf_of_file hline hfile, hresolve]
    rfl
  | ready hline hfile hresolve _ =>
    rw [settingsOf_of_file hline hfile, hresolve]
    rfl

/-- Some stage is the first that fails, or none fails. -/
theorem exists_reaches (read : String → Except Cause String) (shown : String → FileError → String)
    (args : List String) : ∃ start, Reaches read shown args start := by
  cases hline : CommandLine.read args with
  | error why => exact ⟨_, .refused hline⟩
  | ok line =>
    have hlayers {file : FileSettings} (hfile : Decodes read (line .config) file) :
        ∃ start, Reaches read shown args start := by
      cases hresolve : resolve line file with
      | error why => exact ⟨_, .unusable hline hfile hresolve⟩
      | ok s =>
        cases hhost : parseAddress s.host with
        | error why => exact ⟨_, .unaddressed hline hfile hresolve hhost⟩
        | ok ip => exact ⟨_, .ready hline hfile hresolve hhost⟩
    cases hconfig : line .config with
    | none => exact hlayers (hconfig ▸ Decodes.without)
    | some path =>
      cases hread : read path with
      | error cause => exact ⟨_, .unreadable hline hconfig hread⟩
      | ok text =>
        cases hdecode : FileSettings.ofText text with
        | error why => exact ⟨_, .malformed hline hconfig hread hdecode⟩
        | ok file => exact hlayers (hconfig ▸ Decodes.file hread hdecode)

/-- How far a process gets with these settings, or with none. -/
def Start.of : Except Stop Settings → Start
  | .error stop => .stopped stop
  | .ok s => match parseAddress s.host with
    | .error _ => .unaddressed s
    | .ok ip => .ready s ip

theorem Reaches.eq_of {start : Start} (h : Reaches read shown args start) :
    start = .of (settingsOf read shown args) := by
  rw [h.settingsOf_eq]
  cases h with
  | unaddressed _ _ _ hhost => simp only [Start.settings, Start.of, hhost]
  | ready _ _ _ hhost => simp only [Start.settings, Start.of, hhost]
  | _ => rfl

/-- No two stages are both the first that fails. -/
theorem Reaches.unique {start other : Start} (h : Reaches read shown args start)
    (ho : Reaches read shown args other) : other = start :=
  ho.eq_of.trans h.eq_of.symm

end Launch
end NetBench
