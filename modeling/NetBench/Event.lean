import NetBench.Address.Display
import NetBench.Fault
import NetBench.Rate.Report
import NetBench.Role
import NetBench.Text.Utf8

/-! What a process logs. Each event has a level, a message and named fields in a fixed order. -/
namespace NetBench
open Rate

inductive Level where
  | trace
  | debug
  | info
  | warn
  | error
  deriving DecidableEq, Repr

inductive Event where
  | starting (role : Role) (listen remote : String)
  | connectFailed (remote : Endpoint) (why : Fault)
  | connected (remote : Endpoint)
  | greeting (text : String)
  | greetingFailed (why : Fault)
  | sendSpeed (report : Report)
  | writeFailed (total unreported : UInt64) (why : Fault)
  | limitReached (total : UInt64)
  | hungUp
  | queueFailed (address : Endpoint) (why : Fault)
  | listening (address : Endpoint) (depth : UInt32)
  | acceptFailed (why : Fault)
  | reading
  | readFinished (received : UInt64)
  | drained (report : Report) (why : Fault)
  | bindFailed (address : Endpoint) (why : Fault)
  | echoListening (address : Endpoint)
  | receiveFailed (why : Fault)
  | received (peer : Endpoint) (length : Nat)
  | replyFailed (peer : Endpoint) (why : Fault)
  | sendFailed (peer : Endpoint) (why : Fault)
  | echoed (peer : Endpoint) (data : List UInt8)
  | roundTimedOut (round : Nat)
  | roundFailed (round : Nat) (why : Fault)
  | accepted (peer : Endpoint)
  | dialled (peer : Endpoint) (own : Option Endpoint)
  | serverStopped (phase : String)
  | clientFailed (why : String) (phase : Option String)
  | streamFinished (lastWrite : Nat) (phase : String)
  | probeFinished (echoes : Nat)
  deriving DecidableEq, Repr

/-- The value of a field. -/
inductive FieldValue where
  | number (n : Nat)
  | text (s : String)
  deriving DecidableEq, Repr

namespace Level

def name : Level → String
  | .trace => "TRACE"
  | .debug => "DEBUG"
  | .info => "INFO"
  | .warn => "WARN"
  | .error => "ERROR"

def severity : Level → Nat
  | .trace => 1
  | .debug => 2
  | .info => 3
  | .warn => 4
  | .error => 5

end Level

def FieldValue.show : FieldValue → String
  | .number n => toString n
  | .text s => s

namespace Event

/-- A connection that its peer closed in good order ends on an ordinary note. -/
def level : Event → Level
  | .hungUp | .readFinished _ | .receiveFailed _ | .received _ _ => .debug
  | .accepted _ | .dialled _ _ => .debug
  | .starting _ _ _ | .connected _ | .greeting _ | .sendSpeed _ | .limitReached _ => .info
  | .listening _ _ | .reading | .echoListening _ | .echoed _ _ => .info
  | .streamFinished _ _ | .probeFinished _ => .info
  | .drained _ why => if why.isClosed then .info else .warn
  | .replyFailed _ _ | .roundTimedOut _ | .roundFailed _ _ => .warn
  | .connectFailed _ _ | .greetingFailed _ | .writeFailed _ _ _ | .queueFailed _ _ => .error
  | .acceptFailed _ | .bindFailed _ _ | .sendFailed _ _ => .error
  | .serverStopped _ | .clientFailed _ _ => .error

def message : Event → String
  | .starting _ _ _ => "Starting sock-bench"
  | .connectFailed _ _ => "Error connecting"
  | .connected _ => "Connected"
  | .greeting _ => "Sending greeting"
  | .greetingFailed _ => "Errored on greeting write"
  | .sendSpeed _ => "send speed"
  | .writeFailed _ _ _ => "Errored on write"
  | .limitReached _ => "Byte limit reached"
  | .hungUp => "Disconnected"
  | .queueFailed _ _ => "Error creating listening queue"
  | .listening _ _ => "Listening"
  | .acceptFailed _ => "Error accepting new connection"
  | .reading => "Reading data"
  | .readFinished _ => "Read loop finished"
  | .drained _ _ => "Disconnected"
  | .bindFailed _ _ => "Error creating UDP sock"
  | .echoListening _ => "UDP echo listening"
  | .receiveFailed _ => "Receive failed"
  | .received _ _ => "Received a message"
  | .replyFailed _ _ => "Error sending reply"
  | .sendFailed _ _ => "Error sending message"
  | .echoed _ _ => "Received message"
  | .roundTimedOut _ => "Timed out"
  | .roundFailed _ _ => "Error receiving message"
  | .accepted _ => "Accepted connection"
  | .dialled _ _ => "Connected"
  | .serverStopped _ => "Server stopped"
  | .clientFailed _ _ => "Client failed"
  | .streamFinished _ _ => "Client finished"
  | .probeFinished _ => "Client finished"

private def because (why : Fault) : String × FieldValue := ("error", .text why.message)

private def place (name : String) (e : Endpoint) : String × FieldValue := (name, .text e.text)

private def rate (r : Report) : List (String × FieldValue) :=
  [("bytes", .number r.bytes.toNat), ("elapsed_us", .number r.elapsed.toNat),
    ("mbps", .text r.rateText)]

def fields : Event → List (String × FieldValue)
  | .starting role listen remote =>
    [("role", .text role.label), ("listen", .text listen), ("remote", .text remote)]
  | .connectFailed remote why => [place "remote" remote, because why]
  | .connected remote => [place "remote" remote]
  | .greeting text => [("greeting", .text text)]
  | .greetingFailed why | .acceptFailed why | .receiveFailed why => [because why]
  | .sendSpeed report => rate report
  | .writeFailed total unreported why =>
    [("total", .number total.toNat), ("unreported", .number unreported.toNat), because why]
  | .limitReached total => [("total", .number total.toNat)]
  | .hungUp | .reading => []
  | .queueFailed address why | .bindFailed address why => [place "address" address, because why]
  | .listening address depth =>
    [place "address" address, ("queue_depth", .number depth.toNat)]
  | .readFinished bytes => [("received", .number bytes.toNat)]
  | .drained report why => rate report ++ if why.isClosed then [] else [because why]
  | .echoListening address => [place "address" address]
  | .received peer length => [place "peer" peer, ("len", .number length)]
  | .replyFailed peer why | .sendFailed peer why => [place "peer" peer, because why]
  | .echoed peer data => [place "peer" peer, ("message", .text (Text.textOf data))]
  | .roundTimedOut round => [("round", .number round)]
  | .roundFailed round why => [("round", .number round), because why]
  | .accepted peer => [place "peer" peer]
  | .dialled peer own =>
    [place "peer" peer,
      ("local", .text (own.elim "None" fun e => "Some(" ++ e.text ++ ")"))]
  | .serverStopped phase => [("state", .text phase)]
  | .clientFailed why phase =>
    ("error", .text why) :: phase.toList.map fun p => ("state", .text p)
  | .streamFinished lastWrite phase =>
    [("last_write", .number lastWrite), ("state", .text phase)]
  | .probeFinished echoes => [("echoes", .number echoes)]

def line (e : Event) : String :=
  e.level.name ++ " " ++ e.message ++
    String.join (e.fields.map fun (name, v) => " " ++ name ++ "=" ++ v.show)

end Event
end NetBench
