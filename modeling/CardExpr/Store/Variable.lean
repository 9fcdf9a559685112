import CardExpr.Value.Json

/-! Variables and why an operation on them fails. -/

namespace CardExpr

/-- A value under the type that was fixed for it. -/
structure Held where
  type : ValueType
  value : Value

structure Variable extends Held where
  name : String

inductive VariableError where
  | unknown (name : String)
  | typeMismatch (name : String) (expected actual : ValueType)
  | alreadyDeclared (name : String)
  | invalidValue (name : String) (error : ConversionError)
  deriving DecidableEq, Repr

def VariableError.message : VariableError → String
  | .unknown name => "variable '" ++ name ++ "' is not declared"
  | .typeMismatch name expected actual =>
    "variable '" ++ name ++ "' is declared as " ++ expected.name ++ ", cannot assign " ++ actual.name
  | .alreadyDeclared name => "variable '" ++ name ++ "' is already declared in this scope"
  | .invalidValue name error => "invalid value for variable '" ++ name ++ "': " ++ error.message

/-- The value as a variable of that name and type holds it. -/
def conformTo (name : String) (type : ValueType) (value : Value) : Except VariableError Value :=
  match value.conform? type with
  | some v => .ok v
  | none => .error (.typeMismatch name type value.type)

namespace Variable

def ofType (name : String) (type : ValueType) (value : Value) : Except VariableError Variable :=
  (conformTo name type value).map fun v => ⟨⟨type, v⟩, name⟩

/-- A variable of the type of its first value. -/
def infer (name : String) (value : Value) : Variable := ⟨⟨value.type, value⟩, name⟩

end Variable

end CardExpr
