import NetBench.Settings.Schema
import NetBench.Toml.Reader

/-! The settings of a file, out of its text. -/
namespace NetBench

/-- Why a text gives no settings: it is no TOML, or it has the wrong shape. -/
inductive FileError where
  | notToml
  | schema (e : SchemaError)

def FileError.message : FileError → String
  | .notToml => "not a TOML document"
  | .schema e => e.message

def FileSettings.ofText (text : String) : Except FileError FileSettings :=
  match Toml.read? text with
  | none => .error .notToml
  | some entries => (FileSettings.ofEntries entries).mapError .schema

end NetBench
