import NetBench.Settings.File
import NetBench.Toml.Value

/-! The shape that a settings file must have. A section is a table, whose unknown keys are ignored,
or an array of the fields in order. The first error in document order is reported. -/
namespace NetBench
open Toml

/-- What stands at a place of the file. `size` and `long` are 64 bits wide and differ in name. -/
inductive Shape where
  | text
  | byte
  | half
  | word
  | long
  | size
  | section (name : String)
  deriving DecidableEq, Repr

def Shape.name : Shape → String
  | .text => "a string"
  | .byte => "u8"
  | .half => "u16"
  | .word => "u32"
  | .long => "u64"
  | .size => "usize"
  | .section name => "struct " ++ name

/-- Why a document gives no settings. -/
inductive SchemaError where
  | wrongType (found : Value) (expected : Shape)
  | outOfRange (n : Int) (expected : Shape)
  | tooShort (length : Nat) (expected : Shape) (fields : Nat)
  | unknownRole (name : String)
  | roleNotNamed
  | noRoleName
  | manyRoleNames
  | roleWithoutTable (found : Value)
  | roleTableNotEmpty
  | roleArrayNotEmpty

namespace SchemaError

def message : SchemaError → String
  | .wrongType found expected => "invalid type: " ++ found.found ++ ", expected " ++ expected.name
  | .outOfRange n expected =>
    "invalid value: " ++ (Value.integer n).found ++ ", expected " ++ expected.name
  | .tooShort length expected fields =>
    "invalid length " ++ toString length ++ ", expected " ++ expected.name ++ " with " ++
      toString fields ++ (if fields = 1 then " element" else " elements")
  | .unknownRole name =>
    "unknown variant `" ++ name ++ "`, expected one of " ++
      ", ".intercalate (Role.all.map fun r => "`" ++ r.name ++ "`")
  | .roleNotNamed => "wanted string or table"
  | .noRoleName => "wanted exactly 1 element, found 0 elements"
  | .manyRoleNames => "wanted exactly 1 element, more than 1 element"
  | .roleWithoutTable found => "expected table, found " ++ found.typeName
  | .roleTableNotEmpty => "expected empty table"
  | .roleArrayNotEmpty => "expected empty array"

end SchemaError

/-- A field of a section: how its value is read, and the value that it has of its own where its key
is absent. An array may not end before a `required` field. -/
structure Field (σ : Type) where
  key : String
  required : Bool
  fill : σ → σ
  read : Value → Except SchemaError (σ → σ)

namespace Field
variable {σ X : Type}

def defaulted (key : String) (default : X) (read : Value → Except SchemaError X)
    (put : X → σ → σ) : Field σ :=
  ⟨key, false, put default, fun v => put <$> read v⟩

def optional (key : String) (read : Value → Except SchemaError X) (put : Option X → σ → σ) :
    Field σ :=
  ⟨key, true, put none, fun v => (fun x => put (some x)) <$> read v⟩

end Field

namespace Schema

def text (v : Value) : Except SchemaError String :=
  match v with
  | .string s => .ok s
  | v => .error (.wrongType v .text)

def natural (shape : Shape) (bound : Nat) (v : Value) : Except SchemaError Nat :=
  match v with
  | .integer n => if 0 ≤ n && n < bound then .ok n.toNat else .error (.outOfRange n shape)
  | v => .error (.wrongType v shape)

def byte (v : Value) : Except SchemaError UInt8 := Nat.toUInt8 <$> natural .byte UInt8.size v
def half (v : Value) : Except SchemaError UInt16 := Nat.toUInt16 <$> natural .half UInt16.size v
def word (v : Value) : Except SchemaError UInt32 := Nat.toUInt32 <$> natural .word UInt32.size v
def long (v : Value) : Except SchemaError UInt64 := Nat.toUInt64 <$> natural .long UInt64.size v
def size (v : Value) : Except SchemaError UInt64 := Nat.toUInt64 <$> natural .size UInt64.size v

def roleNamed (name : String) : Except SchemaError Role :=
  match Role.ofName? name with
  | some r => .ok r
  | none => .error (.unknownRole name)

/-- What may stand under a role's name: nothing, in a table or an array. -/
def noContent : Value → Except SchemaError Unit
  | .table [] | .array [] | .tables [] => .ok ()
  | .table _ | .array _ => .error .roleTableNotEmpty
  | .tables _ => .error .roleArrayNotEmpty
  | v => .error (.roleWithoutTable v)

/-- A role is a name, or a table with the name as its only key. -/
def role : Value → Except SchemaError Role
  | .string name => roleNamed name
  | .table [] => .error .noRoleName
  | .table [(name, v)] => do
    let r ← roleNamed name
    noContent v
    return r
  | .table _ => .error .manyRoleNames
  | _ => .error .roleNotNamed

/-- Fields by position; `length` of them are read. -/
def positional (expected : Shape) (count : Nat) :
    Nat → List (Field σ) → List Value → σ → Except SchemaError σ
  | _, [], _, s => .ok s
  | length, f :: fs, v :: vs, s => do
    positional expected count (length + 1) fs vs ((← f.read v) s)
  | length, f :: fs, [], s =>
    if f.required then .error (.tooShort length expected count)
    else positional expected count (length + 1) fs [] s

/-- Fields by key, in the order of the document. -/
def keyed (fields : List (Field σ)) : List (String × Value) → σ → Except SchemaError σ
  | [], s => .ok s
  | (key, v) :: entries, s =>
    match fields.find? (·.key == key) with
    | none => keyed fields entries s
    | some f => do keyed fields entries ((← f.read v) s)

/-- A section of which every key is absent. Nothing is left of what it is filled into. -/
def filled (fields : List (Field σ)) (blank : σ) : σ := fields.foldl (fun s f => f.fill s) blank

/-- A section. What is not read has the value that its field has of its own. A date is a table with
keys that no section knows. -/
def readSection (name : String) (fields : List (Field σ)) (blank : σ) (v : Value) :
    Except SchemaError σ :=
  match v with
  | .table entries => keyed fields entries (filled fields blank)
  | .array items | .tables items =>
    positional (.section name) fields.length 0 fields items (filled fields blank)
  | .datetime => .ok (filled fields blank)
  | v => .error (.wrongType v (.section name))

def generalFields : List (Field GeneralSection) :=
  [.optional "role" role fun x _ => { role := x }]

def serverFields : List (Field ServerSection) :=
  [.defaulted "host" defaultListenHost text fun x s => { s with host := x },
    .defaulted "port" defaultListenPort half fun x s => { s with port := x },
    .defaulted "queue_depth" defaultQueueDepth word fun x s => { s with queueDepth := x },
    .defaulted "read_buffer_size" defaultBufferSize size fun x s => { s with readBufferSize := x }]

def clientFields : List (Field ClientSection) :=
  [.defaulted "host" defaultRemoteHost text fun x s => { s with host := x },
    .defaulted "port" defaultRemotePort half fun x s => { s with port := x },
    .defaulted "write_buffer_size" defaultBufferSize size fun x s =>
      { s with writeBufferSize := x },
    .defaulted "filler_byte" defaultFillerByte byte fun x s => { s with fillerByte := x },
    .defaulted "greeting" defaultGreeting text fun x s => { s with greeting := x },
    .defaulted "report_interval_us" defaultReportIntervalUs long fun x s =>
      { s with reportIntervalUs := x },
    .optional "max_bytes" long fun x s => { s with maxBytes := x }]

def udpFields : List (Field UdpSection) :=
  [.defaulted "buffer_size" defaultUdpBufferSize size fun x s => { s with bufferSize := x },
    .defaulted "timeout_ms" defaultUdpTimeoutMs long fun x s => { s with timeoutMs := x },
    .defaulted "interval_ms" defaultUdpIntervalMs long fun x s => { s with intervalMs := x },
    .optional "rounds" long fun x s => { s with rounds := x }]

def loggingFields : List (Field LoggingSection) :=
  [.defaulted "level" defaultLogLevel text fun x _ => { level := x }]

/-- The sections of a file. One that is absent is the default section. -/
def fileFields : List (Field FileSettings) :=
  [.defaulted "general" {} (readSection "GeneralConfig" generalFields {}) fun x s =>
      { s with general := x },
    .defaulted "server" {} (readSection "ServerConfig" serverFields {}) fun x s =>
      { s with server := x },
    .defaulted "client" {} (readSection "ClientConfig" clientFields {}) fun x s =>
      { s with client := x },
    .defaulted "udp" {} (readSection "UdpConfig" udpFields {}) fun x s => { s with udp := x },
    .defaulted "logging" {} (readSection "LoggingConfig" loggingFields {}) fun x s =>
      { s with logging := x }]

end Schema

/-- The settings that a document gives. -/
def FileSettings.ofEntries (entries : List (String × Value)) : Except SchemaError FileSettings :=
  Schema.keyed Schema.fileFields entries (Schema.filled Schema.fileFields {})

end NetBench
