import CardExpr.Evaluation.Error
import CardExpr.Expr
import CardExpr.Decimal.Reader

/-! What the operators do to values. -/

namespace CardExpr

/-- The exact result of an integer operation, refused where it does not fit 64 bits. -/
def checkedInt (operator : String) (n : Int) : Except EvalError Value :=
  match Decimal.int64? n with
  | some i => .ok (.integer i)
  | none => .error (.integerOverflow operator)

def divideInt (operator : String) (a b : Int64) : Except EvalError Value :=
  if b = 0 then .error .divisionByZero
  else checkedInt operator (Int.tdiv a.toInt b.toInt)

/-- The remainder of the quotient toward zero, refused where that quotient does not fit. -/
def moduloInt (operator : String) (a b : Int64) : Except EvalError Value :=
  if b = 0 then .error .divisionByZero
  else if a = Int64.minValue ∧ b.toInt = -1 then .error (.integerOverflow operator)
  else checkedInt operator (Int.tmod a.toInt b.toInt)

def divideFloat (a b : Float) : Except EvalError Value :=
  if b == 0.0 then .error .divisionByZero else .ok (.number (a / b))

def moduloFloat (a b : Float) : Except EvalError Value :=
  if b == 0.0 then .error .divisionByZero else .ok (.number (Decimal.remainder a b))

namespace Value

def numbers? (left right : Value) : Option (Float × Float) := do
  let a ← left.number?
  let b ← right.number?
  pure (a, b)

/-- Equality of values of one type, and of integers and numbers by value. -/
def equal? (left right : Value) : Option Bool :=
  match left, right with
  | .integer a, .integer b => some (a == b)
  | _, _ =>
    match numbers? left right with
    | some (a, b) => some (a == b)
    | none => if left.type = right.type then some (left.same right) else none

/-- How two values stand to each other: nothing where they cannot be compared, and no order where one
is NaN. -/
def compare? (left right : Value) : Option (Option Ordering) :=
  match left, right with
  | .integer a, .integer b => some (some (compare a.toInt b.toInt))
  | .datetime a, .datetime b => some (some (a.compare b))
  | _, _ =>
    (numbers? left right).map fun (a, b) =>
      if a < b then some .lt else if b < a then some .gt else if a == b then some .eq else none

end Value

def orderingHolds : BinaryOp → Option Ordering → Bool
  | _, none => false
  | .less, some o => o.isLT
  | .greater, some o => o.isGT
  | .lessEqual, some o => o.isLE
  | _, some o => o.isGE

/-- Two integers stay integers; otherwise both are taken as numbers. -/
def arithmetic (invalid : EvalError) (onInts : Int64 → Int64 → Except EvalError Value)
    (onFloats : Float → Float → Except EvalError Value) (left right : Value) :
    Except EvalError Value :=
  match left, right with
  | .integer a, .integer b => onInts a b
  | _, _ =>
    match left.numbers? right with
    | some (a, b) => onFloats a b
    | none => .error invalid

def applyBinary (op : BinaryOp) (left right : Value) : Except EvalError Value :=
  let symbol := op.symbol
  let invalid : EvalError := .invalidOperands symbol left.type right.type
  match op with
  | .add =>
    match left, right with
    | .string a, .string b => .ok (.string (a ++ b))
    | _, _ =>
      arithmetic invalid (fun a b => checkedInt symbol (a.toInt + b.toInt))
        (fun a b => .ok (.number (a + b))) left right
  | .subtract =>
    arithmetic invalid (fun a b => checkedInt symbol (a.toInt - b.toInt))
      (fun a b => .ok (.number (a - b))) left right
  | .multiply =>
    arithmetic invalid (fun a b => checkedInt symbol (a.toInt * b.toInt))
      (fun a b => .ok (.number (a * b))) left right
  | .divide =>
    match left.numbers? right with
    | some (a, b) => divideFloat a b
    | none => .error invalid
  | .modulo => arithmetic invalid (moduloInt symbol) moduloFloat left right
  | .equal =>
    match left.equal? right with
    | some b => .ok (.boolean b)
    | none => .error invalid
  | .notEqual =>
    match left.equal? right with
    | some b => .ok (.boolean !b)
    | none => .error invalid
  | .and => .error invalid
  | .or => .error invalid
  | op =>
    match left.compare? right with
    | some o => .ok (.boolean (orderingHolds op o))
    | none => .error invalid

def applyUnary (op : UnaryOp) (operand : Value) : Except EvalError Value :=
  match op, operand with
  | .not, .boolean b => .ok (.boolean !b)
  | .not, v => .error (.nonBooleanCondition op.symbol v.type)
  | .negate, .integer n => checkedInt op.symbol (-n.toInt)
  | .negate, .number x => .ok (.number (-x))
  | .plus, .integer n => .ok (.integer n)
  | .plus, .number x => .ok (.number x)
  | op, v => .error (.invalidOperand op.symbol v.type)

def elementAt (items : List Value) (index : Int64) : Except EvalError Value :=
  let i := index.toInt
  match if i < 0 then none else items[i.toNat]? with
  | some v => .ok v
  | none => .error (.indexOutOfBounds index items.length)

def applyIndex (target key : Value) : Except EvalError Value :=
  match target, key with
  | .array items, .integer i => elementAt items i
  | .dict entries, .string k =>
    match Table.find? entries k with
    | some v => .ok v
    | none => .error (.missingKey k)
  | target, key => .error (.notIndexable target.type key.type)

end CardExpr
