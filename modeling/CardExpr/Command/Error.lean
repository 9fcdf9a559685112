import CardExpr.Card.Declarations

/-! Why a command fails. -/

namespace CardExpr

inductive CommandError where
  | expression (error : ExpressionError)
  | evaluation (error : EvaluationError)
  | declaration (error : DeclarationError)
  | variable (error : VariableError)
  | conversion (error : ConversionError)
  | invalidConfig
  | invalidJson
  | noObject
  | invalidAssignment (text : String)

def CommandError.message : CommandError → String
  | .expression e => "Parse error: " ++ e.message
  | .evaluation e => "Evaluation error: " ++ e.message
  | .declaration e => "Invalid declarations: " ++ e.message
  | .variable e => "Invalid variable: " ++ e.message
  | .conversion e => "Invalid value: " ++ e.message
  | .invalidConfig => "Invalid config: invalid config"
  | .invalidJson => "Invalid JSON"
  | .noObject => "Invalid JSON: expected an object of variables"
  | .invalidAssignment text => "Invalid assignment '" ++ text ++ "', expected NAME=VALUE"

end CardExpr
