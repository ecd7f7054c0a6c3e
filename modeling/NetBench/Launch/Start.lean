import NetBench.Options.Reader
import NetBench.Settings.Layers
import NetBench.Settings.Text

/-! From the arguments of a process to its settings: command line, file, layering, in this order.
The first stage that fails decides how the process ends. -/
namespace NetBench.Launch

/-- Why a process ends before it plays a role. -/
inductive Stop where
  | refused (why : Refusal)
  | unusable (why : SettingsError)
  deriving DecidableEq, Repr

namespace Stop

/-- The exit code; a request for information is no failure. -/
def code : Stop → Nat
  | .refused .help | .refused .version => 0
  | .refused _ => 2
  | .unusable _ => 1

def report : Stop → Option String
  | .refused _ => none
  | .unusable why => some ("Error: " ++ why.form)

end Stop

variable {m : Type → Type} [Monad m]

/-- The settings of a file, or none without a file. `read` gives the content of a file, and `shown`
what a final report has of an error in it. -/
def fileSettings (read : String → m (Except Cause String)) (shown : String → FileError → String) :
    Option String → m (Except SettingsError FileSettings)
  | none => return .ok {}
  | some path => do
    match ← read path with
    | .error cause => return .error (.unreadable path cause)
    | .ok text =>
      return (FileSettings.ofText text).mapError fun e => .malformed path e.message (shown text e)

def settings (read : String → m (Except Cause String)) (shown : String → FileError → String)
    (args : List String) : m (Except Stop Settings) := do
  match CommandLine.read args with
  | .error why => return .error (.refused why)
  | .ok line =>
    match ← fileSettings read shown (line .config) with
    | .error why => return .error (.unusable why)
    | .ok file => return (resolve line file).mapError .unusable

end NetBench.Launch
