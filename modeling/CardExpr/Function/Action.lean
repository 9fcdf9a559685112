import CardExpr.Function.Args
import CardExpr.Config

/-! What a built-in function may do: read variables by name, warn, and end with a value or an error. -/

namespace CardExpr

/-- A running function as a tree of its requests to the evaluation that calls it. -/
inductive Action where
  | done (result : Except EvalError Value)
  | read (name : String) (next : Option Value → Action)
  | warn (message : String) (next : Action)

/-- What a function knows of its surroundings beside its arguments. -/
structure CallSite where
  config : Config
  now : Calendar.DateTime

abbrev NativeBody := CallSite → Args → Action

def NativeBody.pure (f : Args → Except EvalError Value) : NativeBody := fun _ args => .done (f args)

end CardExpr
