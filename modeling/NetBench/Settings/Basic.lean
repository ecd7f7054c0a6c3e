import NetBench.Fault
import NetBench.Role

/-! The settings of a run, their defaults, and what makes them unusable. -/
namespace NetBench

/-- Everything a role needs to know. Sizes are in bytes; names end in their unit of time. -/
structure Settings where
  role : Role
  listenHost : String
  listenPort : UInt16
  queueDepth : UInt32
  readBufferSize : UInt64
  remoteHost : String
  remotePort : UInt16
  writeBufferSize : UInt64
  fillerByte : UInt8
  greeting : String
  reportIntervalUs : UInt64
  maxBytes : Option UInt64
  udpBufferSize : UInt64
  udpTimeoutMs : UInt64
  udpIntervalMs : UInt64
  rounds : Option UInt64
  logLevel : String
  deriving DecidableEq, Repr

def defaultLogLevel : String := "info"

/-- Values that no run can use. -/
inductive Unusable where
  | queueDepth
  | bufferSize
  | reportInterval
  deriving DecidableEq, Repr

def Unusable.message : Unusable → String
  | .queueDepth => "queue_depth must be at least 1"
  | .bufferSize => "buffer sizes must be non-zero"
  | .reportInterval => "report_interval_us must be non-zero"

/-- Why a process gets no settings. What is wrong in a file is said twice, as `detail` for a message
and as `shown` for a final report. -/
inductive SettingsError where
  | unreadable (path : String) (cause : Cause)
  | malformed (path detail shown : String)
  | missingRole
  | invalid (what : Unusable)
  deriving DecidableEq, Repr

namespace SettingsError

/-- The message; what a file's reader says of a malformed file ends its own line. -/
def message : SettingsError → String
  | .unreadable path cause => "Failed to read config file '" ++ path ++ "': " ++ cause.message
  | .malformed path detail _ => "Failed to parse config file '" ++ path ++ "': " ++ detail ++ "\n"
  | .missingRole => "No role given: pass --role or set [general] role"
  | .invalid what => "Invalid configuration: " ++ what.message

/-- The form in the final report of a program that stops on it. -/
def form : SettingsError → String
  | .unreadable path cause => "FileRead(" ++ Text.quote path ++ ", " ++ cause.form ++ ")"
  | .malformed path _ shown => "TomlParse(" ++ Text.quote path ++ ", " ++ shown ++ ")"
  | .missingRole => "MissingRole"
  | .invalid what => "Invalid(" ++ Text.quote what.message ++ ")"

end SettingsError

/-- The first thing that makes the settings unusable. -/
def Settings.unusable? (s : Settings) : Option Unusable :=
  if s.queueDepth = 0 then some .queueDepth
  else if s.readBufferSize = 0 || s.writeBufferSize = 0 || s.udpBufferSize = 0 then
    some .bufferSize
  else if s.reportIntervalUs = 0 then some .reportInterval
  else none

end NetBench
