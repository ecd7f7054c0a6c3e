import NetBench.Options.Basic
import NetBench.Settings.File

/-! One set of settings out of three layers: the command line, then the file, then the defaults. -/
namespace NetBench

/-- The log level of the command line, with the default where it names none. -/
def CommandLine.logLevel (line : CommandLine) : String :=
  (line .logLevel).getD defaultLogLevel

/-- The layers on top of each other. A log level that is the default counts as not given. -/
def layer (line : CommandLine) (file : FileSettings) (role : Role) : Settings where
  role := role
  listenHost := (line .listenHost).getD file.server.host
  listenPort := (line .listenPort).getD file.server.port
  queueDepth := (line .queueDepth).getD file.server.queueDepth
  readBufferSize := (line .readBufferSize).getD file.server.readBufferSize
  remoteHost := (line .remoteHost).getD file.client.host
  remotePort := (line .remotePort).getD file.client.port
  writeBufferSize := (line .writeBufferSize).getD file.client.writeBufferSize
  fillerByte := (line .fillerByte).getD file.client.fillerByte
  greeting := (line .greeting).getD file.client.greeting
  reportIntervalUs := (line .reportIntervalUs).getD file.client.reportIntervalUs
  maxBytes := (line .maxBytes).or file.client.maxBytes
  udpBufferSize := (line .udpBufferSize).getD file.udp.bufferSize
  udpTimeoutMs := (line .udpTimeoutMs).getD file.udp.timeoutMs
  udpIntervalMs := (line .udpIntervalMs).getD file.udp.intervalMs
  rounds := (line .rounds).or file.udp.rounds
  logLevel := if line.logLevel ≠ defaultLogLevel then line.logLevel else file.logging.level

/-- The settings of a run: they need a role and usable values. -/
def resolve (line : CommandLine) (file : FileSettings) : Except SettingsError Settings :=
  match (line .role).or file.general.role with
  | none => .error .missingRole
  | some role =>
    let settings := layer line file role
    match settings.unusable? with
    | some what => .error (.invalid what)
    | none => .ok settings

end NetBench
