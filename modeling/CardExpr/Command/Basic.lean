import CardExpr.Command.Variables
import CardExpr.Text.Case
import CardExpr.Text.Search

/-! The commands: evaluating an expression, checking one, and listing functions. -/

namespace CardExpr.Command

structure EvalRequest where
  expression : String
  declarations : Option String := none
  /-- Applied in order, after the declarations. -/
  assignments : List String := []
  config : Config := {}

structure EvalReport where
  value : Value
  reads : ReadSet
  warnings : List Warning

def evaluateRequest (now : Calendar.DateTime) (request : EvalRequest) : Except CommandError EvalReport := do
  let declarations ← match request.declarations with
    | some text => readDeclarations text
    | none => pure {}
  let (store, stores) := Stores.create {} none
  let declared ← (declarations.declareVariables stores store).mapError .declaration
  let functions ← declarations.registry.mapError .declaration
  let stores ← request.assignments.foldlM (assign · store) declared.stores
  let expression ← (Expression.parse request.expression request.config).mapError .expression
  let evaluation :=
    evaluate ⟨stores.resolver store, functions, request.config, now⟩ expression
  let value ← evaluation.result.mapError .evaluation
  pure ⟨value, evaluation.reads, evaluation.warnings⟩

structure CheckReport where
  isConstant : Bool
  variableNames : List String

def checkSource (config : Config) (source : String) : Except CommandError CheckReport := do
  let expression ← (Expression.parse source config).mapError .expression
  pure ⟨expression.isConstant, expression.variableNames⟩

/-- The built-in functions whose name contains the filter, in lower case both. -/
def listFunctions (filter : Option String) : List (CallKind × String) :=
  let matching (f : Function) : Bool :=
    match filter with
    | none => true
    | some part =>
      (Text.find? (Text.toLower part).toList (Text.toLower f.name).toList).isSome
  (Registry.builtins.signatures.filter fun entry => matching entry.2).map fun (kind, f) =>
    (kind, f.text)

end CardExpr.Command
