import CardExpr.Expression
import CardExpr.Function.Action

/-! Functions that a card declares. -/

namespace CardExpr

structure ArgumentDeclaration where
  name : String
  type : ValueType
  deriving DecidableEq, Repr

structure FunctionDeclaration where
  name : String
  arguments : List ArgumentDeclaration
  returnType : ValueType
  body : String
  deriving DecidableEq, Repr

/-- Why a function cannot be registered. -/
inductive RegistryError where
  | duplicateFunction (name : String) (arity : Nat)
  | duplicateArgument (function argument : String)
  | unknownArgument (function name : String)
  | invalidBody (function : String) (error : ExpressionError)

def RegistryError.message : RegistryError → String
  | .duplicateFunction name arity =>
    "function '" ++ name ++ "' with " ++ toString arity ++ " argument(s) is already registered"
  | .duplicateArgument function argument =>
    "function '" ++ function ++ "' declares argument '" ++ argument ++ "' more than once"
  | .unknownArgument function name =>
    "function '" ++ function ++ "' refers to '" ++ name ++ "', which is not one of its arguments"
  | .invalidBody function error =>
    "invalid body for function '" ++ function ++ "': " ++ error.message

/-- A checked function of a card. Its body refers to no variable but its arguments. -/
structure CustomFunction where
  name : String
  arguments : List ArgumentDeclaration
  returnType : ValueType
  body : Expression

namespace CustomFunction

/-- The first name that an earlier one repeats. -/
def firstRepeated : (seen : List String) → List String → Option String
  | _, [] => none
  | seen, name :: rest =>
    if seen.contains name then some name else firstRepeated (name :: seen) rest

def compile (d : FunctionDeclaration) : Except RegistryError CustomFunction :=
  let names := d.arguments.map (·.name)
  match firstRepeated [] names with
  | some argument => .error (.duplicateArgument d.name argument)
  | none =>
    match Expression.parse d.body with
    | .error e => .error (.invalidBody d.name e)
    | .ok body =>
      match body.variableNames.find? (fun v => !names.contains v) with
      | some name => .error (.unknownArgument d.name name)
      | none => .ok ⟨d.name, d.arguments, d.returnType, body⟩

def signature (f : CustomFunction) : Signature :=
  { args := f.arguments.map fun a => .of a.type, returns := f.returnType }

/-- The arguments of a call by their names. -/
def bindings (f : CustomFunction) (args : Args) : Table Value :=
  Table.ofList ((f.arguments.map (·.name)).zip args.values)

end CustomFunction

end CardExpr
