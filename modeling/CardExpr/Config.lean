import CardExpr.Json.Node

/-! Limits and switches of evaluations. -/

namespace CardExpr

structure Config where
  /-- How deeply nodes and custom function calls may nest in one evaluation. -/
  maxDepth : Nat := 256
  /-- The longest source that is read, in characters. -/
  maxExpressionLength : Nat := 16384
  /-- Whether variable getters that fall back to their default warn. -/
  warnOnFallback : Bool := true
  deriving DecidableEq, Repr

namespace Config

/-- The value of an optional field: the default where it is absent, and nothing where it is no value of
its kind. -/
def field {α : Type} (read : Json.Node → Option α) (default : α) : Option Json.Node → Option α
  | none => some default
  | some node => read node

/-- Reads a configuration from JSON text; absent fields keep their defaults. -/
def ofJson? (text : String) : Option Config := do
  let node ← Json.Node.read? text
  match ← node.fields? ["max_depth", "max_expression_length", "warn_on_fallback"] with
  | [depth, length, warn] => do
    let standard : Config := {}
    let maxDepth ← field Json.Node.natural? standard.maxDepth depth
    let maxExpressionLength ← field Json.Node.natural? standard.maxExpressionLength length
    let warnOnFallback ← field Json.Node.bool? standard.warnOnFallback warn
    pure { maxDepth, maxExpressionLength, warnOnFallback }
  | _ => none

end Config

end CardExpr
