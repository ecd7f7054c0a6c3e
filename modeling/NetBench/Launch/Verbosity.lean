import NetBench.Event
import NetBench.Text.Numeral

/-! How much is logged, as a level's name or number says it. -/
namespace NetBench.Launch

/-- From `off` to everything. -/
inductive Verbosity where
  | off
  | downTo (least : Level)
  deriving DecidableEq, Repr

namespace Verbosity

def admits : Verbosity → Level → Bool
  | .off, _ => false
  | .downTo least, level => least.severity ≤ level.severity

def names : List (String × Verbosity) :=
  [("off", .off), ("error", .downTo .error), ("warn", .downTo .warn), ("info", .downTo .info),
    ("debug", .downTo .debug), ("trace", .downTo .trace)]

/-- Reads a name of either case, or a number, which may have a plus sign and zeros in front. -/
def ofText? (s : List Char) : Option Verbosity :=
  match Text.decimal? (if s.head? = some '+' then s.drop 1 else s) with
  | some n => names[n]?.map (·.2)
  | none => names.lookup (String.ofList s).toLower

end Verbosity
end NetBench.Launch
