import NetBench.Text.Quoted

/-! What can go wrong on a transport.
Each fault has a message for log lines, a list of causes below it, and a form for the
final report of a program that stops on it. -/
namespace NetBench

/-- Failures by their kind alone, with no message of their own. -/
inductive FailureKind where
  | addressInUse
  | brokenPipe
  | connectionAborted
  | connectionRefused
  | connectionReset
  | permissionDenied
  | timedOut
  | other
  deriving DecidableEq, Repr

/-- The operating system's errors that a transport or a file can meet. -/
inductive OsError where
  | notFound
  | noDevice
  | permissionDenied
  | notADirectory
  | isADirectory
  | invalidArgument
  | brokenPipe
  | fileNameTooLong
  | familyUnsupported
  | addressInUse
  | addressUnavailable
  | networkUnreachable
  | connectionAborted
  | connectionReset
  | connectionTimedOut
  | connectionRefused
  | hostUnreachable
  deriving DecidableEq, Repr

/-- Where an I/O failure comes from; `notText` is a file whose bytes are no UTF-8. -/
inductive Cause where
  | text (message : String)
  | kind (k : FailureKind)
  | os (e : OsError)
  | notText
  deriving DecidableEq, Repr

inductive Fault where
  | closed
  | timedOut
  | badAddress (text : String)
  | io (cause : Cause)
  deriving DecidableEq, Repr

def FailureKind.message : FailureKind → String
  | .addressInUse => "address in use"
  | .brokenPipe => "broken pipe"
  | .connectionAborted => "connection aborted"
  | .connectionRefused => "connection refused"
  | .connectionReset => "connection reset"
  | .permissionDenied => "permission denied"
  | .timedOut => "timed out"
  | .other => "other error"

def FailureKind.name : FailureKind → String
  | .addressInUse => "AddrInUse"
  | .brokenPipe => "BrokenPipe"
  | .connectionAborted => "ConnectionAborted"
  | .connectionRefused => "ConnectionRefused"
  | .connectionReset => "ConnectionReset"
  | .permissionDenied => "PermissionDenied"
  | .timedOut => "TimedOut"
  | .other => "Other"

namespace OsError

/-- Number, name of the kind, and message. -/
def info : OsError → Nat × String × String
  | .notFound => (2, "NotFound", "No such file or directory")
  | .noDevice => (6, "Uncategorized", "No such device or address")
  | .permissionDenied => (13, "PermissionDenied", "Permission denied")
  | .notADirectory => (20, "NotADirectory", "Not a directory")
  | .isADirectory => (21, "IsADirectory", "Is a directory")
  | .invalidArgument => (22, "InvalidInput", "Invalid argument")
  | .brokenPipe => (32, "BrokenPipe", "Broken pipe")
  | .fileNameTooLong => (36, "InvalidFilename", "File name too long")
  | .familyUnsupported => (97, "Uncategorized", "Address family not supported by protocol")
  | .addressInUse => (98, "AddrInUse", "Address already in use")
  | .addressUnavailable => (99, "AddrNotAvailable", "Cannot assign requested address")
  | .networkUnreachable => (101, "NetworkUnreachable", "Network is unreachable")
  | .connectionAborted => (103, "ConnectionAborted", "Software caused connection abort")
  | .connectionReset => (104, "ConnectionReset", "Connection reset by peer")
  | .connectionTimedOut => (110, "TimedOut", "Connection timed out")
  | .connectionRefused => (111, "ConnectionRefused", "Connection refused")
  | .hostUnreachable => (113, "HostUnreachable", "No route to host")

def code (e : OsError) : Nat := e.info.1

def all : List OsError :=
  [.notFound, .noDevice, .permissionDenied, .notADirectory, .isADirectory, .invalidArgument,
    .brokenPipe, .fileNameTooLong, .familyUnsupported, .addressInUse, .addressUnavailable,
    .networkUnreachable, .connectionAborted, .connectionReset, .connectionTimedOut,
    .connectionRefused, .hostUnreachable]

def ofCode? (code : Nat) : Option OsError := all.find? (·.code == code)

def message (e : OsError) : String :=
  e.info.2.2 ++ " (os error " ++ toString e.code ++ ")"

def form (e : OsError) : String :=
  "Os \x7b code: " ++ toString e.code ++ ", kind: " ++ e.info.2.1 ++ ", message: " ++
    Text.quote e.info.2.2 ++ " \x7d"

end OsError

def Cause.notTextMessage : String := "stream did not contain valid UTF-8"

def Cause.message : Cause → String
  | .text message => message
  | .kind k => k.message
  | .os e => e.message
  | .notText => notTextMessage

def Cause.form : Cause → String
  | .text message => "Custom \x7b kind: Other, error: " ++ Text.quote message ++ " \x7d"
  | .kind k => "Kind(" ++ k.name ++ ")"
  | .os e => e.form
  | .notText =>
    "Error \x7b kind: InvalidData, message: " ++ Text.quote notTextMessage ++ " \x7d"

namespace Fault

def message : Fault → String
  | .closed => "connection closed by peer"
  | .timedOut => "operation timed out"
  | .badAddress text => "invalid address '" ++ text ++ "'"
  | .io cause => cause.message

/-- Messages of the causes below a fault; an I/O failure shows its cause's text once more. -/
def causes : Fault → List String
  | .io cause => [cause.message]
  | _ => []

def isClosed : Fault → Bool
  | .closed => true
  | _ => false

def form : Fault → String
  | .closed => "Closed"
  | .timedOut => "TimedOut"
  | .badAddress text => "AddrParse(" ++ Text.quote text ++ ")"
  | .io cause => "Io(" ++ cause.form ++ ")"

end Fault
end NetBench
