import Mathlib
import NetBench.Launch.Process
import NetBench.Proofs.Address.Reading
import NetBench.Proofs.Datagram.Acts
import NetBench.Proofs.Launch.Stages
import NetBench.Proofs.Stream.Acts

/-! What shows of a process that ends before it opens a socket. The stage of its start that fails
first decides all of it: the exit code, the log and the final report. -/
namespace NetBench.Launch
open NetBench.Host Talk

/-- A text as lines of a log. -/
def lines (text : String) : List String :=
  (Text.pieces '\n' text.toList).map fun line => String.ofList (Text.trim line)

def openingLines (s : Settings) : List String :=
  lines ("INFO Starting sock-bench role=" ++ s.role.label ++
    " listen=" ++ s.listenHost ++ ":" ++ toString s.listenPort.toNat ++
    " remote=" ++ s.remoteHost ++ ":" ++ toString s.remotePort.toNat)

/-- What a process logs as an error when its role has no address: a client says which host it was. -/
def closingLines (s : Settings) : List String :=
  match s.role with
  | .tcpServer => ["ERROR Server stopped state=Idle"]
  | .tcpClient => lines ("ERROR Client failed error=Invalid remote address: invalid address '" ++
      s.remoteHost ++ "' state=Terminated")
  | .udpServer => []
  | .udpClient => lines ("ERROR Client failed error=Invalid address: invalid address '" ++
      s.remoteHost ++ "'")

/-- What a process reports in the end when its role has no address: a server says which host it was. -/
def closingReport (s : Settings) : Option String :=
  match s.role with
  | .tcpServer | .udpServer => some ("Error: Address(AddrParse(" ++ Text.quote s.listenHost ++ "))")
  | .tcpClient | .udpClient => none

/-- What shows of a process that comes to no socket. -/
inductive Shows : Start → Outcome → Prop where
  | help : Shows (.stopped (.refused .help)) ⟨some 0, [], none⟩
  | version : Shows (.stopped (.refused .version)) ⟨some 0, [], none⟩
  | refused {why : Refusal} (hhelp : why ≠ .help) (hversion : why ≠ .version) :
      Shows (.stopped (.refused why)) ⟨some 2, [], none⟩
  | unreadable (path : String) (cause : Cause) :
      Shows (.stopped (.unusable (.unreadable path cause)))
        ⟨some 1, [], some ("Error: FileRead(" ++ Text.quote path ++ ", " ++ cause.form ++ ")")⟩
  | malformed (path detail shown : String) :
      Shows (.stopped (.unusable (.malformed path detail shown)))
        ⟨some 1, [], some ("Error: TomlParse(" ++ Text.quote path ++ ", " ++ shown ++ ")")⟩
  | missingRole : Shows (.stopped (.unusable .missingRole)) ⟨some 1, [], some "Error: MissingRole"⟩
  | invalid (what : Unusable) :
      Shows (.stopped (.unusable (.invalid what)))
        ⟨some 1, [], some ("Error: Invalid(" ++ Text.quote what.message ++ ")")⟩
  | unaddressed {s : Settings} {v : Verbosity} (hlevel : (s.logLevel, v) ∈ Verbosity.names) :
      Shows (.unaddressed s) ⟨some 1, (if v.admits .info then openingLines s else []) ++
        if v = .off then [] else closingLines s, closingReport s⟩

/-- The role of the settings makes a call on the machine's sockets. -/
def Calls (s : Settings) (m : Machine) : Prop :=
  match s.role with
  | .tcpServer => ∃ x ∈ ((Stream.Drain.run s (depth s)).play (Machine.streams _) m).acts,
      x.1.isCall = true
  | .tcpClient => ∃ x ∈ ((Stream.Sender.session s (depth s)).play (Machine.streams _) m).acts,
      x.1.isCall = true
  | .udpServer => ∃ x ∈ ((Datagram.Reflector.run s (depth s)).play Socketed.datagrams
      { machine := m }).acts, x.1.isCall = true
  | .udpClient => ∃ x ∈ ((Datagram.Prober.run s (depth s)).play Socketed.datagrams
      { machine := m }).acts, x.1.isCall = true

/-- A process with these arguments comes to open a socket. -/
def Opens (read : String → Except Cause String) (shown : String → FileError → String)
    (args : List String) (m : Machine) : Prop :=
  ∃ s filter, settingsOf read shown args = .ok s ∧ Filter.ofText? s.logLevel = some filter ∧ Calls s m

/-- The log level of the settings, if there are any, is the name of one. -/
def NamesLevel (read : String → Except Cause String) (shown : String → FileError → String)
    (args : List String) : Prop :=
  ∀ s, settingsOf read shown args = .ok s → ∃ v, (s.logLevel, v) ∈ Verbosity.names

variable {read : String → Except Cause String} {shown : String → FileError → String}
  {args : List String} {s : Settings}

private theorem report_pair (name first second : String) :
    "Error: " ++ name ++ first ++ ", " ++ second ++ ")" =
      "Error: " ++ (name ++ first ++ ", " ++ second ++ ")") := by
  simp only [String.append_assoc]

private theorem shows_stopped (stop : Stop) :
    Shows (.stopped stop) ⟨some stop.code, [], stop.report⟩ := by
  cases stop with
  | refused why =>
    cases why with
    | help => exact .help
    | version => exact .version
    | _ => exact .refused nofun nofun
  | unusable why =>
    cases why with
    | unreadable path cause =>
      have h := Shows.unreadable path cause
      rwa [show "Error: FileRead(" = "Error: " ++ "FileRead(" from rfl, report_pair] at h
    | malformed path detail shown =>
      have h := Shows.malformed path detail shown
      rwa [show "Error: TomlParse(" = "Error: " ++ "TomlParse(" from rfl, report_pair] at h
    | missingRole => exact .missingRole
    | invalid what => cases what <;> exact .invalid _

private theorem ofText?_name : ∀ p ∈ Verbosity.names, Filter.ofText? p.1 = some [⟨none, none, p.2⟩] := by
  decide +kernel

private theorem logLines_level (v : Verbosity) (events : List Event) :
    logLines [⟨none, none, v⟩] events =
      (events.filter fun e => v.admits e.level).flatMap fun e => lines e.line := by
  rfl

private theorem lines_opening (s : Settings) : lines (opening s).line = openingLines s := by
  unfold openingLines
  congr 1
  rw [← String.toList_inj]
  simp [opening, Event.line, Event.fields, Event.level, Event.message, Level.name, FieldValue.show,
    String.join]

private def lastWords (s : Settings) : Farewell :=
  match s.role with
  | .tcpServer => .ofDrain .idle (.address (.badAddress s.listenHost))
  | .tcpClient => .ofSender .terminated (.error (.address (.badAddress s.remoteHost)))
  | .udpServer => .ofReflector (.address (.badAddress s.listenHost))
  | .udpClient => .ofProber (.error (.address (.badAddress s.remoteHost)))

private theorem perform_unaddressed (hhost : parseAddress s.host = .error (.badAddress s.host))
    (m : Machine) : perform s m = ([], some (lastWords s)) ∧ ¬Calls s m := by
  unfold Settings.host at hhost
  unfold perform lastWords Calls
  cases hr : s.role with
  | tcpServer =>
    simp only [hr] at hhost
    simp only [Stream.Drain.run, hhost]
    refine ⟨rfl, ?_⟩
    rintro ⟨x, hx, -⟩
    cases hx
  | tcpClient =>
    simp only [hr] at hhost
    simp only [Stream.Sender.session, hhost]
    refine ⟨rfl, ?_⟩
    rintro ⟨x, hx, hcall⟩
    obtain rfl := List.mem_singleton.mp hx
    cases hcall
  | udpServer =>
    simp only [hr] at hhost
    simp only [Datagram.Reflector.run, hhost]
    refine ⟨rfl, ?_⟩
    rintro ⟨x, hx, -⟩
    cases hx
  | udpClient =>
    simp only [hr] at hhost
    simp only [Datagram.Prober.run, hhost]
    refine ⟨rfl, ?_⟩
    rintro ⟨x, hx, -⟩
    cases hx

private theorem code_lastWords (s : Settings) : (lastWords s).code = 1 := by
  unfold lastWords
  cases s.role <;> rfl

private theorem report_lastWords (s : Settings) : (lastWords s).report = closingReport s := by
  have hform : "Error: " ++ ("Address(" ++ (Fault.badAddress s.listenHost).form ++ ")") =
      "Error: Address(AddrParse(" ++ Text.quote s.listenHost ++ "))" := by
    rw [← String.toList_inj]
    simp [Fault.form]
  unfold lastWords closingReport
  cases s.role with
  | tcpServer => exact congrArg some hform
  | udpServer => exact congrArg some hform
  | tcpClient | udpClient => rfl

private theorem line_clientFailed (why : String) (phase? : Option String) :
    (Event.clientFailed why phase?).line =
      "ERROR Client failed error=" ++ why ++ phase?.elim "" (" state=" ++ ·) := by
  rw [← String.toList_inj]
  cases phase? <;>
    simp [Event.line, Event.fields, Event.level, Event.message, Level.name, FieldValue.show,
      String.join]

private theorem line_senderFailed (host : String) :
    (Event.clientFailed (Stream.Sender.Failure.address (.badAddress host)).message
      (some Stream.Sender.Phase.terminated.name)).line =
      "ERROR Client failed error=Invalid remote address: invalid address '" ++ host ++
        "' state=Terminated" := by
  have hfront : "ERROR Client failed error=Invalid remote address: invalid address '" =
      "ERROR Client failed error=" ++ ("Invalid remote address: " ++ "invalid address '") := by rfl
  have hback : "' state=Terminated" = "'" ++ (" state=" ++ "Terminated") := by rfl
  have hmessage : (Stream.Sender.Failure.address (.badAddress host)).message =
      "Invalid remote address: " ++ ("invalid address '" ++ host ++ "'") := rfl
  rw [line_clientFailed, hfront, hback, hmessage]
  simp only [String.append_assoc]
  rfl

private theorem line_proberFailed (host : String) :
    (Event.clientFailed (Datagram.Failure.address (.badAddress host)).message none).line =
      "ERROR Client failed error=Invalid address: invalid address '" ++ host ++ "'" := by
  have hfront : "ERROR Client failed error=Invalid address: invalid address '" =
      "ERROR Client failed error=" ++ ("Invalid address: " ++ "invalid address '") := by rfl
  have hmessage : (Datagram.Failure.address (.badAddress host)).message =
      "Invalid address: " ++ ("invalid address '" ++ host ++ "'") := rfl
  rw [line_clientFailed, hfront, hmessage]
  simp only [String.append_assoc, Option.elim, String.append_empty]

private theorem lines_stopped :
    lines (Event.serverStopped Stream.Drain.Phase.idle.name).line =
      ["ERROR Server stopped state=Idle"] := by
  decide +kernel

private theorem level_lastWords (s : Settings) : ∀ e ∈ (lastWords s).events, e.level = .error := by
  unfold lastWords
  cases s.role <;>
    simp [Farewell.ofDrain, Farewell.ofSender, Farewell.ofReflector, Farewell.ofProber, Event.level]

private theorem lines_lastWords (s : Settings) :
    ((lastWords s).events.flatMap fun e => lines e.line) = closingLines s := by
  unfold lastWords closingLines
  cases s.role with
  | tcpServer => exact lines_stopped
  | udpServer => rfl
  | tcpClient =>
    rw [← line_senderFailed]
    exact List.append_nil _
  | udpClient =>
    rw [← line_proberFailed]
    exact List.append_nil _

private theorem logLines_unaddressed (s : Settings) (v : Verbosity) :
    logLines [⟨none, none, v⟩] (opening s :: (lastWords s).events) =
      (if v.admits .info then openingLines s else []) ++ if v = .off then [] else closingLines s := by
  have hclosing : ((lastWords s).events.filter fun e => v.admits e.level).flatMap
      (fun e => lines e.line) = if v = .off then [] else closingLines s := by
    cases v with
    | off =>
      have hnone : (lastWords s).events.filter (fun e => Verbosity.off.admits e.level) = [] :=
        List.filter_eq_nil_iff.mpr fun e _ => Bool.false_ne_true
      rw [hnone]
      rfl
    | downTo least =>
      have hall : ∀ e ∈ (lastWords s).events, (Verbosity.downTo least).admits e.level = true := by
        intro e he
        rw [level_lastWords s e he]
        cases least <;> rfl
      rw [List.filter_eq_self.mpr hall, lines_lastWords, if_neg nofun]
  have hlevel : (opening s).level = .info := rfl
  rw [logLines_level, List.filter_cons, hlevel, ← hclosing]
  split
  · rw [List.flatMap_cons, lines_opening]
  · rfl

private theorem shows_unaddressed {v : Verbosity} (m : Machine)
    (hhost : parseAddress s.host = .error (.badAddress s.host))
    (hlevel : (s.logLevel, v) ∈ Verbosity.names) :
    Shows (.unaddressed s) (outcome none s m) := by
  have h : outcome none s m = ⟨some 1, (if v.admits .info then openingLines s else []) ++
      if v = .off then [] else closingLines s, closingReport s⟩ := by
    simp only [outcome, Filter.chosen?, Option.map_none, ofText?_name _ hlevel,
      (perform_unaddressed hhost m).1]
    rw [← logLines_unaddressed, ← report_lastWords, ← code_lastWords s]
    rfl
  exact h ▸ .unaddressed hlevel

private theorem calls_of_address {ip : Ip} (hhost : parseAddress s.host = .ok ip) (m : Machine) :
    Calls s m := by
  unfold Settings.host at hhost
  unfold Calls
  cases hr : s.role with
  | tcpServer =>
    simp only [hr] at hhost
    simp only [Stream.Drain.run, hhost]
    exact ⟨⟨.listen ⟨ip, s.listenPort⟩ s.queueDepth, _⟩, mem_acts_next rfl mem_acts_ask, rfl⟩
  | tcpClient =>
    simp only [hr] at hhost
    simp only [Stream.Sender.session, hhost]
    exact ⟨⟨.connect ⟨ip, s.remotePort⟩, _⟩, mem_acts_next rfl mem_acts_ask, rfl⟩
  | udpServer =>
    simp only [hr] at hhost
    simp only [Datagram.Reflector.run, hhost]
    exact ⟨⟨.bind ⟨ip, s.listenPort⟩, _⟩, mem_acts_ask, rfl⟩
  | udpClient =>
    simp only [hr] at hhost
    simp only [Datagram.Prober.run, hhost]
    exact ⟨⟨.bind ⟨ip.unspecifiedLike, 0⟩, _⟩, mem_acts_ask, rfl⟩

private theorem opens_iff {start : Start} (h : Reaches read shown args start)
    (hlevel : NamesLevel read shown args) (m : Machine) :
    Opens read shown args m ↔ ∃ s ip, start = .ready s ip := by
  constructor
  · rintro ⟨s, filter, hs, -, hcalls⟩
    have hstart := h.eq_of
    rw [hs, Start.of] at hstart
    cases hhost : parseAddress s.host with
    | error why =>
      obtain rfl := (parseAddress_eq_error_iff.mp hhost).1
      exact absurd hcalls (perform_unaddressed hhost m).2
    | ok ip =>
      rw [hhost] at hstart
      exact ⟨s, ip, hstart⟩
  · rintro ⟨s, ip, rfl⟩
    have hs := h.settingsOf_eq
    obtain ⟨v, hv⟩ := hlevel s hs
    cases h with
    | ready _ _ _ hhost => exact ⟨s, _, hs, ofText?_name _ hv, calls_of_address hhost m⟩

private theorem run_of_error {stop : Stop} (h : settingsOf read shown args = .error stop) (m : Machine) :
    run read shown none args m = ⟨some stop.code, [], stop.report⟩ := by
  unfold settingsOf at h
  simp only [run, h]

private theorem run_of_ok (h : settingsOf read shown args = .ok s) (m : Machine) :
    run read shown none args m = outcome none s m := by
  unfold settingsOf at h
  simp only [run, h]

private theorem shows_of_reaches {start : Start} (h : Reaches read shown args start)
    (hlevel : NamesLevel read shown args) (m : Machine) (hready : ¬∃ s ip, start = .ready s ip) :
    Shows start (run read shown none args m) := by
  have hs := h.settingsOf_eq
  cases start with
  | stopped stop =>
    rw [run_of_error hs]
    exact shows_stopped stop
  | unaddressed s =>
    obtain ⟨v, hv⟩ := hlevel s hs
    rw [run_of_ok hs]
    cases h with
    | unaddressed _ _ _ hhost =>
      obtain rfl := (parseAddress_eq_error_iff.mp hhost).1
      exact shows_unaddressed m hhost hv
  | ready s ip => exact absurd ⟨s, ip, rfl⟩ hready

private theorem Shows.of_code {start : Start} {outcome : Outcome} (h : Shows start outcome)
    (hcode : outcome.code = some 0) :
    start = .stopped (.refused .help) ∨ start = .stopped (.refused .version) := by
  cases h with
  | help => exact .inl rfl
  | version => exact .inr rfl
  | _ => cases hcode

/-- The first stage of a start that fails decides alone what shows of the process, if no variable
holds a filter: its exit code, its log and its report. This goes for all files that there may be,
and for any way to show an error in one. There is exactly one such stage unless the process comes to
open a socket; and what ends before that ends in success only if information was asked for. -/
theorem startup_shows_first_failure {read : String → Except Cause String}
    {shown : String → FileError → String} {args : List String}
    (hlevel : NamesLevel read shown args) (m : Machine) :
    ∃ start, Reaches read shown args start ∧ (∀ other, Reaches read shown args other → other = start) ∧
      (Opens read shown args m ↔ ∃ s ip, start = .ready s ip) ∧
      (¬Opens read shown args m → Shows start (run read shown none args m) ∧
        ((run read shown none args m).code = some 0 →
          start = .stopped (.refused .help) ∨ start = .stopped (.refused .version))) := by
  obtain ⟨start, h⟩ := exists_reaches read shown args
  have hopens := opens_iff h hlevel m
  refine ⟨start, h, fun other ho => h.unique ho, hopens, ?_⟩
  intro hno
  have hshows := shows_of_reaches h hlevel m fun hready => hno (hopens.mpr hready)
  exact ⟨hshows, hshows.of_code⟩

/-- One file, which names a bad host for clients. -/
def oneFile (path : String) : Except Cause String :=
  if path = "a.toml" then .ok "[client]\nhost = \"somewhere\"\n[logging]\nlevel = \"warn\"\n"
  else .error (.os .notFound)

def quoted (_ : String) (e : FileError) : String := Text.quote e.message

def namelessRemote : List String := ["-c", "a.toml", "--role=udp-client", "--listen-host=x"]

theorem startup_shows_first_failure_namelessRemote : ∃ s,
    NamesLevel oneFile quoted namelessRemote ∧ settingsOf oneFile quoted namelessRemote = .ok s ∧
      Reaches oneFile quoted namelessRemote (.unaddressed s) ∧
      Shows (.unaddressed s) (run oneFile quoted none namelessRemote {}) ∧
      run oneFile quoted none namelessRemote {} =
        ⟨some 1, ["ERROR Client failed error=Invalid address: invalid address 'somewhere'"], none⟩ := by
  have hs : settingsOf oneFile quoted namelessRemote = .ok { Settings.default with
      role := .udpClient, listenHost := "x", remoteHost := "somewhere", logLevel := "warn" } := by
    decide +kernel
  have hlevel : NamesLevel oneFile quoted namelessRemote := by
    intro s h
    obtain rfl := Except.ok.inj (hs.symm.trans h)
    exact ⟨.downTo .warn, by decide⟩
  obtain ⟨start, hreaches, -, hopens, hshows⟩ := startup_shows_first_failure hlevel {}
  have hstart := hreaches.eq_of
  have hhost : parseAddress "somewhere" = .error (.badAddress "somewhere") := by decide +kernel
  simp only [hs, Start.of, Settings.host, hhost] at hstart
  subst hstart
  have hno : ¬Opens oneFile quoted namelessRemote {} := by
    intro ho
    obtain ⟨s, ip, hready⟩ := hopens.mp ho
    cases hready
  exact ⟨_, hlevel, hs, hreaches, (hshows hno).1, by decide +kernel⟩

end NetBench.Launch
