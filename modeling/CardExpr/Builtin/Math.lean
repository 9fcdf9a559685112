import CardExpr.Builtin.Entry
import CardExpr.Evaluation.Operators

/-! Arithmetic. Overloads for integers come before those for numbers, so that integers stay integers. -/

namespace CardExpr.Builtin

/-- Combines all arguments from the left, integers with the checked operation and others as numbers. -/
def fold (operator : String) (onInts : Int → Int → Int) (onFloats : Float → Float → Float)
    (args : Args) : Except EvalError Value := do
  let first ← args.get 0
  (args.rest 1).foldlM (fun acc v =>
    arithmetic (.invalidOperands operator acc.type v.type)
      (fun a b => checkedInt operator (onInts a.toInt b.toInt))
      (fun a b => .ok (.number (onFloats a b))) acc v) first

/-- Integers with the checked operation, anything else as numbers. -/
def combine (onInts : Int64 → Int64 → Except EvalError Value)
    (onFloats : Float → Float → Except EvalError Value) (args : Args) : Except EvalError Value := do
  let left ← args.get 0
  let right ← args.get 1
  match left, right with
  | .integer a, .integer b => onInts a b
  | _, _ => do
    let a ← args.number 0
    let b ← args.number 1
    onFloats a b

/-- The greater of two numbers; a NaN gives way to the other one. -/
def maxFloat (a b : Float) : Float := if a.isNaN then b else if a < b then b else a

def minFloat (a b : Float) : Float := if a.isNaN then b else if b < a then b else a

def abs (args : Args) : Except EvalError Value := do
  match ← args.get 0 with
  | .integer n => checkedInt "abs" n.toInt.natAbs
  | _ => do
    let x ← args.number 0
    pure (.number x.abs)

/-- The sign as a number: zeros and NaN stay what they are. -/
def signOf (x : Float) : Float := if x == 0.0 || x.isNaN then x else if x < 0.0 then -1.0 else 1.0

def signum (args : Args) : Except EvalError Value := do
  match ← args.get 0 with
  | .integer n => pure (.integer (Int64.ofInt n.toInt.sign))
  | _ => do
    let x ← args.number 0
    pure (.number (signOf x))

def onNumber (f : Float → Float) (args : Args) : Except EvalError Value := do
  let x ← args.number 0
  pure (.number (f x))

def copySign (args : Args) : Except EvalError Value := do
  let x ← args.number 0
  let y ← args.number 1
  pure (.number (Decimal.copySign x y))

def constant (v : Value) : NativeBody := .pure fun _ => .ok v

def unaryMath (name : String) (body : NativeBody) : List Entry :=
  [function name [integer] .integer body, function name [number] .number body]

def binaryMath (name : String) (body : NativeBody) : List Entry :=
  [function name [integer, integer] .integer body, function name [number, number] .number body]

def variadicMath (name : String) (body : NativeBody) : List Entry :=
  [function name [integer] .integer body (some integer),
    function name [number] .number body (some number)]

def greatestNumber : Float := Float.ofBits 0x7FEFFFFFFFFFFFFF

/-- The least positive number. -/
def leastNumber : Float := Float.ofBits 1

def math : List Entry :=
  binaryMath "div" (.pure (combine (divideInt "div") divideFloat)) ++
  binaryMath "mod" (.pure (combine (moduloInt "mod") moduloFloat)) ++
  variadicMath "mul" (.pure (fold "mul" (· * ·) (· * ·))) ++
  variadicMath "sub" (.pure (fold "sub" (· - ·) (· - ·))) ++
  variadicMath "sum" (.pure (fold "sum" (· + ·) (· + ·))) ++
  variadicMath "max" (.pure (fold "max" max maxFloat)) ++
  variadicMath "min" (.pure (fold "min" min minFloat)) ++
  unaryMath "abs" (.pure abs) ++
  unaryMath "signum" (.pure signum) ++
  [function "round" [number] .number (.pure (onNumber Float.round)),
    function "floor" [number] .number (.pure (onNumber Float.floor)),
    function "ceil" [number] .number (.pure (onNumber Float.ceil)),
    function "copySign" [number, number] .number (.pure copySign),
    function "maxInteger" [] .integer (constant (.integer Int64.maxValue)),
    function "minInteger" [] .integer (constant (.integer Int64.minValue)),
    function "maxNumber" [] .number (constant (.number greatestNumber)),
    function "minNumber" [] .number (constant (.number leastNumber))]

end CardExpr.Builtin
