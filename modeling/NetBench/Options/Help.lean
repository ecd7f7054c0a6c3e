import NetBench.Options.Reader

/-! What the program says about its command line. -/
namespace NetBench

namespace Opt

def purpose : Opt → String
  | .config => "TOML file with settings"
  | .role => "role to play: " ++ ", ".intercalate (Role.all.map Role.name)
  | .listenHost => "address to listen on"
  | .listenPort => "port to listen on"
  | .queueDepth => "how many connections may wait to be accepted"
  | .readBufferSize => "bytes that one read can take"
  | .remoteHost => "address to connect or send to"
  | .remotePort => "port to connect or send to"
  | .writeBufferSize => "bytes of filler that one write offers"
  | .fillerByte => "value of the filler bytes"
  | .greeting => "text that is sent first, with a zero byte after it"
  | .reportIntervalUs => "microseconds between reports"
  | .maxBytes => "stop after this many bytes of filler"
  | .udpBufferSize => "bytes that one datagram can have"
  | .udpTimeoutMs => "milliseconds to wait for an answer"
  | .udpIntervalMs => "milliseconds between two rounds"
  | .rounds => "stop after this many rounds"
  | .logLevel => "off, error, warn, info, debug or trace"

def helpLine (o : Opt) : String :=
  let short := match o.letter with
    | some c => String.ofList ['-', c, ',', ' ']
    | none => "    "
  "  " ++ short ++ o.usage ++ ": " ++ o.purpose

end Opt

def programName : String := "sock-bench"

def versionText : String := programName ++ " 0.1.0"

def helpText : String :=
  "\n".intercalate (("Usage: " ++ programName ++ " [OPTIONS]") :: Opt.all.map Opt.helpLine)

/-- The answer to a request for information, and the complaint about anything else. -/
def Refusal.message : Refusal → String
  | .help => helpText
  | .version => versionText
  | .unknown argument => "error: unexpected argument '" ++ argument ++ "'"
  | .repeated o => "error: '" ++ o.usage ++ "' is given twice"
  | .missingValue o => "error: '" ++ o.usage ++ "' needs a value"
  | .badNumber o value => "error: '" ++ o.usage ++ "' takes no number '" ++ value ++ "'"
  | .badChoice o value => "error: '" ++ o.usage ++ "' takes no value '" ++ value ++ "'"
  | .needlessValue name value => "error: '" ++ name ++ "' takes no value '" ++ value ++ "'"

end NetBench
