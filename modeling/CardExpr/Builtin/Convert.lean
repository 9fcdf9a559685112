import CardExpr.Builtin.Entry
import CardExpr.Text.Blank

/-! Conversions between types. -/

namespace CardExpr.Builtin

def toText (args : Args) : Except EvalError Value := do
  let v ← args.get 0
  pure (.string v.text)

/-- The number without its fraction, where that fits 64 bits. -/
def integerOf? (x : Float) : Option Int64 :=
  let whole := Decimal.truncate x
  if whole.isFinite && decide (-9223372036854775808.0 ≤ whole) && decide (whole < 9223372036854775808.0)
  then some whole.toInt64 else none

def toInteger (args : Args) : Except EvalError Value := do
  match ← args.get 0 with
  | .number x =>
    match integerOf? x with
    | some n => pure (.integer n)
    | none => args.fail (.tooLargeForInteger (Decimal.Style.plain.text x))
  | .string s =>
    match Decimal.readInteger (Text.trim s.toList) with
    | some n => pure (.integer n)
    | none => args.fail (.notInteger s)
  | .boolean b => pure (.integer (if b then 1 else 0))
  | v => args.fail (.noIntegerOf v.type)

def toNumber (args : Args) : Except EvalError Value := do
  match ← args.get 0 with
  | .integer n => pure (.number n.toFloat)
  | .string s =>
    match (Decimal.readFloat (Text.trim s.toList)).filter Float.isFinite with
    | some x => pure (.number x)
    | none => args.fail (.notNumber s)
  | v => args.fail (.noNumberOf v.type)

def booleanOf? : Value → Option Bool
  | .integer n => if n = 0 then some false else if n = 1 then some true else none
  | .string s => if s = "true" then some true else if s = "false" then some false else none
  | _ => none

def toBoolean (args : Args) : Except EvalError Value := do
  let v ← args.get 0
  match booleanOf? v with
  | some b => pure (.boolean b)
  | none => args.fail (.notBoolean v.text)

def toColor (args : Args) : Except EvalError Value := do
  let text ← args.string 0
  match Color.parse text with
  | .ok c => pure (.color c)
  | .error e => args.fail (.invalidColor e)

def isAsciiLetter (c : Char) : Bool :=
  decide ('a' ≤ c ∧ c ≤ 'z') || decide ('A' ≤ c ∧ c ≤ 'Z')

def isSchemeChar (c : Char) : Bool :=
  isAsciiLetter c || Decimal.isDigit c || c = '+' || c = '-' || c = '.'

/-- Whether the text has a scheme, a colon and something behind it, and no blanks. -/
def hasScheme (text : List Char) : Bool :=
  match text.span (fun c => c != ':') with
  | (first :: scheme, ':' :: rest) =>
    isAsciiLetter first && scheme.all isSchemeChar && !rest.isEmpty && !text.any Text.isBlank
  | _ => false

def toUrl (args : Args) : Except EvalError Value := do
  let text ← args.string 0
  if hasScheme text.toList then pure (.url text) else args.fail (.notUrl text)

def conversions : List Entry :=
  [function "toString" [.any] .string (.pure toText),
    method "toString" [.any] .string (.pure toText),
    function "toInteger" [.oneOf [.number, .string, .boolean]] .integer (.pure toInteger),
    function "toNumber" [.oneOf [.integer, .string]] .number (.pure toNumber),
    function "toBoolean" [.oneOf [.integer, .string]] .boolean (.pure toBoolean),
    function "toColor" [string] .color (.pure toColor),
    function "toUrl" [string] .url (.pure toUrl)]

end CardExpr.Builtin
