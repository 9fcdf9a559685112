import CardExpr.Function.Signature

/-! The checked arguments of a call. -/

namespace CardExpr

structure Args where
  callee : String
  values : List Value

namespace Args

def fail {α : Type} (args : Args) (failure : Failure) : Except EvalError α :=
  .error (.function args.callee failure)

def get (args : Args) (index : Nat) : Except EvalError Value :=
  match args.values[index]? with
  | some v => .ok v
  | none => args.fail (.missingArgument (index + 1))

def mismatch {α : Type} (args : Args) (index : Nat) (expected : ValueType) : Except EvalError α :=
  let actual := match args.values[index]? with
    | some v => v.type
    | none => expected
  .error (.argumentType ⟨args.callee, index + 1, expected.name, actual⟩)

def integer (args : Args) (index : Nat) : Except EvalError Int64 := do
  match ← args.get index with
  | .integer n => pure n
  | _ => args.mismatch index .integer

/-- A number, or an integer widened to one. -/
def number (args : Args) (index : Nat) : Except EvalError Float := do
  match (← args.get index).number? with
  | some x => pure x
  | none => args.mismatch index .number

def string (args : Args) (index : Nat) : Except EvalError String := do
  match ← args.get index with
  | .string s => pure s
  | _ => args.mismatch index .string

def boolean (args : Args) (index : Nat) : Except EvalError Bool := do
  match ← args.get index with
  | .boolean b => pure b
  | _ => args.mismatch index .boolean

/-- A color, or a string that is read as one. -/
def color (args : Args) (index : Nat) : Except EvalError Color := do
  match ← args.get index with
  | .color c => pure c
  | .string s =>
    match Color.parse s with
    | .ok c => pure c
    | .error e => args.fail (.invalidColor e)
  | _ => args.mismatch index .color

def datetime (args : Args) (index : Nat) : Except EvalError Calendar.DateTime := do
  match ← args.get index with
  | .datetime t => pure t
  | _ => args.mismatch index .datetime

def array (args : Args) (index : Nat) : Except EvalError (List Value) := do
  match ← args.get index with
  | .array items => pure items
  | _ => args.mismatch index .array

def dict (args : Args) (index : Nat) : Except EvalError (Table Value) := do
  match ← args.get index with
  | .dict entries => pure entries
  | _ => args.mismatch index .dict

def rest (args : Args) (index : Nat) : List Value := args.values.drop index

end Args

end CardExpr
