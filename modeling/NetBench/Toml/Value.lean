import NetBench.Decimal.Shortest
import NetBench.Text.Quoted

/-! The values of a TOML document, and how messages name them.
Entries of a table keep the order in which the document made them. -/
namespace NetBench.Toml
open Decimal

/-- A floating-point value. -/
inductive Real where
  | finite (negative : Bool) (magnitude : Binary64)
  | infinite (negative : Bool)
  | nan
  deriving DecidableEq, Repr

/-- Positional text with the fewest digits that read back. -/
def Real.text : Real → String
  | .finite negative x => (if negative then "-" else "") ++ positional (shortest x)
  | .infinite negative => if negative then "-inf" else "inf"
  | .nan => "NaN"

/-- Dates and times are all alike here. A `tables` value is an array of tables made by headers;
`array` is any array written as a value. -/
inductive Value where
  | string (s : String)
  | integer (n : Int)
  | float (x : Real)
  | boolean (b : Bool)
  | datetime
  | array (items : List Value)
  | tables (rows : List Value)
  | table (entries : List (String × Value))
  deriving Repr

namespace Value

/-- The value as a message about a wrong type shows it. -/
def found : Value → String
  | .string s => "string " ++ Text.quote s
  | .integer n => "integer `" ++ toString n ++ "`"
  | .float x => "floating point `" ++ x.text ++ "`"
  | .boolean b => "boolean `" ++ (if b then "true" else "false") ++ "`"
  | .array _ | .tables _ => "sequence"
  | .datetime | .table _ => "map"

def typeName : Value → String
  | .string _ => "string"
  | .integer _ => "integer"
  | .float _ => "float"
  | .boolean _ => "boolean"
  | .datetime => "datetime"
  | .array _ => "array"
  | .tables _ => "array of tables"
  | .table _ => "table"

end Value
end NetBench.Toml
