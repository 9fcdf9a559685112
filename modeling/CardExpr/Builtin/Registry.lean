import CardExpr.Builtin.Calendar
import CardExpr.Builtin.Color
import CardExpr.Builtin.Convert
import CardExpr.Builtin.Lookup
import CardExpr.Builtin.Math
import CardExpr.Builtin.Text

/-! The registry of all built-in functions. -/

namespace CardExpr

/-- In the order of their registration. -/
def Builtin.entries : List Builtin.Entry :=
  strings ++ math ++ conversions ++ colors ++ instants ++ lookups ++ getters

def Registry.builtins : Registry :=
  Builtin.entries.foldl (fun r e => r.add e.kind e.function) {}

end CardExpr
