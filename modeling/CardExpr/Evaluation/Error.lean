import CardExpr.Calendar.Pattern
import CardExpr.Value.Basic
import CardExpr.Text.Utf8

/-! Why an evaluation fails. -/

namespace CardExpr

/-- A call by name, or one on a receiver. -/
inductive CallKind where
  | function
  | method
  deriving DecidableEq, Repr

def CallKind.name : CallKind → String
  | .function => "function"
  | .method => "method"

/-- What a built-in function finds wrong with its arguments. -/
inductive Failure where
  | missingArgument (position : Nat)
  | invalidColor (error : ColorError)
  | wrongFallback (expected actual : ValueType)
  | wrongElement (expected actual : ValueType)
  | indexesOutOfBounds
  | indexesDescending
  | invalidEncoding (error : Text.Utf8Error)
  | invalidRegex
  | timestampOutOfRange (seconds : Int64)
  | datetimeOutOfRange
  | notDatetime (text : String)
  | fieldOutOfRange (field : String) (value : Int64)
  | invalidPattern (error : Calendar.PatternError)
  | tooLargeForInteger (number : String)
  | notInteger (text : String)
  | noIntegerOf (type : ValueType)
  | notNumber (text : String)
  | noNumberOf (type : ValueType)
  | notBoolean (text : String)
  | notUrl (text : String)
  | componentOutOfRange (number : String)

def Failure.message : Failure → String
  | .missingArgument position => "missing argument " ++ toString position
  | .invalidColor e => e.message
  | .wrongFallback expected actual =>
    "fallback must be " ++ expected.name ++ ", got " ++ actual.name
  | .wrongElement expected actual =>
    "expected " ++ expected.name ++ " value, got " ++ actual.name
  | .indexesOutOfBounds => "indexes are out of bounds"
  | .indexesDescending => "indexes should be in ascending order"
  | .invalidEncoding e => "invalid percent-encoded text: " ++ e.message
  | .invalidRegex => "invalid regular expression"
  | .timestampOutOfRange n => "timestamp " ++ toString n.toInt ++ " is out of range"
  | .datetimeOutOfRange => "resulting datetime is out of range"
  | .notDatetime text => "'" ++ text ++ "' does not match yyyy-MM-dd HH:mm:ss"
  | .fieldOutOfRange field n => field ++ " " ++ toString n.toInt ++ " is out of range"
  | .invalidPattern e => e.message
  | .tooLargeForInteger number => number ++ " does not fit into an integer"
  | .notInteger text => "unable to convert '" ++ text ++ "' to integer"
  | .noIntegerOf type => "unable to convert " ++ type.name ++ " to integer"
  | .notNumber text => "unable to convert '" ++ text ++ "' to number"
  | .noNumberOf type => "unable to convert " ++ type.name ++ " to number"
  | .notBoolean text => "unable to convert '" ++ text ++ "' to boolean"
  | .notUrl text => "'" ++ text ++ "' is not a valid url"
  | .componentOutOfRange number => "color component " ++ number ++ " is out of range 0..1"

/-- An argument of a type that the signature does not have in its position, the first being one. -/
structure ArgumentTypeError where
  function : String
  position : Nat
  expected : String
  actual : ValueType
  deriving DecidableEq, Repr

inductive EvalError where
  | undefinedVariable (name : String)
  | unknownFunction (kind : CallKind) (name : String) (arity : Nat)
  | argumentType (error : ArgumentTypeError)
  | invalidOperands (operator : String) (left right : ValueType)
  | invalidOperand (operator : String) (operand : ValueType)
  | nonBooleanCondition (operator : String) (actual : ValueType)
  | integerOverflow (operator : String)
  | divisionByZero
  | indexOutOfBounds (index : Int64) (length : Nat)
  | missingKey (key : String)
  | notIndexable (target key : ValueType)
  | returnType (function : String) (expected actual : ValueType)
  | depthLimitExceeded (limit : Nat)
  | function (name : String) (failure : Failure)
  | customFunction (name : String) (cause : EvalError)

def EvalError.message : EvalError → String
  | .undefinedVariable name => "variable '" ++ name ++ "' is not defined"
  | .unknownFunction kind name arity =>
    "unknown " ++ kind.name ++ " '" ++ name ++ "' with " ++ toString arity ++ " argument(s)"
  | .argumentType e =>
    "argument " ++ toString e.position ++ " of '" ++ e.function ++ "' must be " ++ e.expected ++
      ", got " ++ e.actual.name
  | .invalidOperands operator left right =>
    "operator '" ++ operator ++ "' cannot be applied to " ++ left.name ++ " and " ++ right.name
  | .invalidOperand operator operand =>
    "operator '" ++ operator ++ "' cannot be applied to " ++ operand.name
  | .nonBooleanCondition operator actual =>
    "operator '" ++ operator ++ "' requires a boolean operand, got " ++ actual.name
  | .integerOverflow operator => "integer overflow in '" ++ operator ++ "'"
  | .divisionByZero => "division by zero"
  | .indexOutOfBounds index length =>
    "index " ++ toString index.toInt ++ " is out of bounds for array of length " ++ toString length
  | .missingKey key => "missing key '" ++ key ++ "' in dict"
  | .notIndexable target key => "cannot index " ++ target.name ++ " with " ++ key.name
  | .returnType callee expected actual =>
    "'" ++ callee ++ "' must return " ++ expected.name ++ ", got " ++ actual.name
  | .depthLimitExceeded limit => "maximum evaluation depth of " ++ toString limit ++ " exceeded"
  | .function name failure => name ++ ": " ++ failure.message
  | .customFunction name cause => "in custom function '" ++ name ++ "': " ++ cause.message

/-- A failed evaluation with the source of its expression. -/
structure EvaluationError where
  cause : EvalError
  source : String

def EvaluationError.message (e : EvaluationError) : String :=
  "failed to evaluate '" ++ e.source ++ "': " ++ e.cause.message

end CardExpr
