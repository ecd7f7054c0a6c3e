import NetBench.Settings.Basic

/-! The settings that a file gives, by section. A section that the file leaves out is the default
one. -/
namespace NetBench

def defaultListenHost : String := "0.0.0.0"
def defaultListenPort : UInt16 := 12345
def defaultQueueDepth : UInt32 := 1
def defaultBufferSize : UInt64 := 2048
def defaultRemoteHost : String := "192.168.1.102"
def defaultRemotePort : UInt16 := 12344
def defaultFillerByte : UInt8 := 97
def defaultGreeting : String := "Hello!"
def defaultReportIntervalUs : UInt64 := 2000000
def defaultUdpBufferSize : UInt64 := 128
def defaultUdpTimeoutMs : UInt64 := 1000
def defaultUdpIntervalMs : UInt64 := 1000

structure GeneralSection where
  role : Option Role := none
  deriving DecidableEq, Repr

structure ServerSection where
  host : String := defaultListenHost
  port : UInt16 := defaultListenPort
  queueDepth : UInt32 := defaultQueueDepth
  readBufferSize : UInt64 := defaultBufferSize
  deriving DecidableEq, Repr

structure ClientSection where
  host : String := defaultRemoteHost
  port : UInt16 := defaultRemotePort
  writeBufferSize : UInt64 := defaultBufferSize
  fillerByte : UInt8 := defaultFillerByte
  greeting : String := defaultGreeting
  reportIntervalUs : UInt64 := defaultReportIntervalUs
  maxBytes : Option UInt64 := none
  deriving DecidableEq, Repr

structure UdpSection where
  bufferSize : UInt64 := defaultUdpBufferSize
  timeoutMs : UInt64 := defaultUdpTimeoutMs
  intervalMs : UInt64 := defaultUdpIntervalMs
  rounds : Option UInt64 := none
  deriving DecidableEq, Repr

structure LoggingSection where
  level : String := defaultLogLevel
  deriving DecidableEq, Repr

structure FileSettings where
  general : GeneralSection := {}
  server : ServerSection := {}
  client : ClientSection := {}
  udp : UdpSection := {}
  logging : LoggingSection := {}
  deriving DecidableEq, Repr

/-- The settings of a role that neither file nor command line changes. -/
def FileSettings.settings (f : FileSettings) (role : Role) : Settings where
  role := role
  listenHost := f.server.host
  listenPort := f.server.port
  queueDepth := f.server.queueDepth
  readBufferSize := f.server.readBufferSize
  remoteHost := f.client.host
  remotePort := f.client.port
  writeBufferSize := f.client.writeBufferSize
  fillerByte := f.client.fillerByte
  greeting := f.client.greeting
  reportIntervalUs := f.client.reportIntervalUs
  maxBytes := f.client.maxBytes
  udpBufferSize := f.udp.bufferSize
  udpTimeoutMs := f.udp.timeoutMs
  udpIntervalMs := f.udp.intervalMs
  rounds := f.udp.rounds
  logLevel := f.logging.level

def Settings.default : Settings := FileSettings.settings {} .tcpServer

end NetBench
