import NetBench.Role

/-! The options of the command line: their names, the values they take, and what a command line
gives. -/
namespace NetBench

/-- What an option takes. -/
inductive ValueKind where
  | path
  | role
  | text
  | byte
  | half
  | word
  | long
  deriving DecidableEq, Repr

/-- The values of a kind: numbers have 8, 16, 32 or 64 bits. -/
abbrev ValueKind.Value : ValueKind → Type
  | .path => String
  | .role => Role
  | .text => String
  | .byte => UInt8
  | .half => UInt16
  | .word => UInt32
  | .long => UInt64

inductive Opt where
  | config
  | role
  | listenHost
  | listenPort
  | queueDepth
  | readBufferSize
  | remoteHost
  | remotePort
  | writeBufferSize
  | fillerByte
  | greeting
  | reportIntervalUs
  | maxBytes
  | udpBufferSize
  | udpTimeoutMs
  | udpIntervalMs
  | rounds
  | logLevel
  deriving DecidableEq, Repr

namespace Opt

def all : List Opt :=
  [.config, .role, .listenHost, .listenPort, .queueDepth, .readBufferSize, .remoteHost,
    .remotePort, .writeBufferSize, .fillerByte, .greeting, .reportIntervalUs, .maxBytes,
    .udpBufferSize, .udpTimeoutMs, .udpIntervalMs, .rounds, .logLevel]

theorem mem_all (o : Opt) : o ∈ all := by cases o <;> decide

def long : Opt → String
  | .config => "config"
  | .role => "role"
  | .listenHost => "listen-host"
  | .listenPort => "listen-port"
  | .queueDepth => "queue-depth"
  | .readBufferSize => "read-buffer-size"
  | .remoteHost => "remote-host"
  | .remotePort => "remote-port"
  | .writeBufferSize => "write-buffer-size"
  | .fillerByte => "filler-byte"
  | .greeting => "greeting"
  | .reportIntervalUs => "report-interval-us"
  | .maxBytes => "max-bytes"
  | .udpBufferSize => "udp-buffer-size"
  | .udpTimeoutMs => "udp-timeout-ms"
  | .udpIntervalMs => "udp-interval-ms"
  | .rounds => "rounds"
  | .logLevel => "log-level"

def letter : Opt → Option Char
  | .config => some 'c'
  | .role => some 'r'
  | .listenPort => some 'p'
  | .writeBufferSize => some 'l'
  | .reportIntervalUs => some 'i'
  | .maxBytes => some 'n'
  | _ => none

@[reducible] def kind : Opt → ValueKind
  | .config => .path
  | .role => .role
  | .listenHost | .remoteHost | .greeting | .logLevel => .text
  | .listenPort | .remotePort => .half
  | .queueDepth => .word
  | .fillerByte => .byte
  | .readBufferSize | .writeBufferSize | .reportIntervalUs | .maxBytes => .long
  | .udpBufferSize | .udpTimeoutMs | .udpIntervalMs | .rounds => .long

abbrev Value (o : Opt) : Type := o.kind.Value

def usage (o : Opt) : String :=
  "--" ++ o.long ++ " <" ++
    String.ofList (o.long.toList.map fun c => if c = '-' then '_' else c.toUpper) ++ ">"

end Opt

/-- The values that a command line gives. -/
abbrev CommandLine : Type := (o : Opt) → Option o.Value

namespace CommandLine

def empty : CommandLine := fun _ => none

def set (line : CommandLine) (o : Opt) (v : o.Value) : CommandLine := fun p =>
  if h : p = o then some (h ▸ v) else line p

@[simp] theorem set_same (line : CommandLine) (o : Opt) (v : o.Value) :
    line.set o v o = some v := by simp [set]

@[simp] theorem set_other (line : CommandLine) {o p : Opt} (v : o.Value) (h : p ≠ o) :
    line.set o v p = line p := by simp [set, h]

end CommandLine
end NetBench
