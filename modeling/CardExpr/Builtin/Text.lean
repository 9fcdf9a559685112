import CardExpr.Builtin.Entry
import CardExpr.Regex.Reader
import CardExpr.Text.Case
import CardExpr.Text.Percent
import CardExpr.Text.Search

/-! Strings, by characters. -/

namespace CardExpr.Builtin

def onString (f : String → Value) (args : Args) : Except EvalError Value := do
  let text ← args.string 0
  pure (f text)

def onStrings (f : String → String → Value) (args : Args) : Except EvalError Value := do
  let a ← args.string 0
  let b ← args.string 1
  pure (f a b)

def onChars (f : List Char → List Char) (text : String) : Value :=
  .string (String.ofList (f text.toList))

def lengthOf (text : String) : Value := .integer (Int64.ofNat text.length)

def concat (args : Args) : Except EvalError Value :=
  .ok (.string (String.join (args.values.map (·.text))))

/-- The characters from `start` up to `end`. -/
def substring (args : Args) : Except EvalError Value := do
  let text ← args.string 0
  let first ← args.integer 1
  let last ← args.integer 2
  if first.toInt < 0 ∨ (text.length : Int) < last.toInt then args.fail .indexesOutOfBounds
  else if last.toInt < first.toInt then args.fail .indexesDescending
  else
    pure (.string (String.ofList
      ((text.toList.drop first.toInt.toNat).take (last.toInt - first.toInt).toNat)))

def positionOf : Option Nat → Value
  | some n => .integer (Int64.ofNat n)
  | none => .integer (-1)

def replaceAll (args : Args) : Except EvalError Value := do
  let text ← args.string 0
  let old ← args.string 1
  let new ← args.string 2
  if old.isEmpty then pure (.string text)
  else pure (.string (String.ofList (Text.replace old.toList new.toList text.toList)))

/-- What brings a text of `length` characters to `width`, the padding over and over. -/
def padding (length : Nat) (width : Int) (pad : List Char) : List Char :=
  let missing := (width - length).toNat
  ((List.replicate (missing / pad.length + 1) pad).flatten).take missing

/-- Pads the text of a value; with nothing to pad with the text is left as it is, and a warning says
so. -/
def padWith (join : List Char → List Char → List Char) : NativeBody := fun _ args =>
  let parts : Except EvalError (String × Int64 × String) := do
    let v ← args.get 0
    let width ← args.integer 1
    let pad ← args.string 2
    pure (v.text, width, pad)
  match parts with
  | .error e => .done (.error e)
  | .ok (text, width, pad) =>
    if width.toInt ≤ text.length then .done (.ok (.string text))
    else if pad.isEmpty then
      .warn "padding string is empty, the value is left as is" (.done (.ok (.string text)))
    else
      .done (.ok (.string (String.ofList
        (join (padding text.length width.toInt pad.toList) text.toList))))

def decodeUri (args : Args) : Except EvalError Value := do
  let text ← args.string 0
  match Text.Percent.decode text with
  | .ok decoded => pure (.string decoded)
  | .error e => args.fail (.invalidEncoding e)

def testRegex (args : Args) : Except EvalError Value := do
  let pattern ← args.string 1
  match Regex.read? pattern with
  | none => args.fail .invalidRegex
  | some r => do
    let text ← args.string 0
    pure (.boolean (r.occursIn text))

def containsText (text part : String) : Value :=
  .boolean (Text.find? part.toList text.toList).isSome

def strings : List Entry :=
  [function "len" [string] .integer (.pure (onString lengthOf)),
    function "concat" [string] .string (.pure concat) (some string),
    function "substring" [string, integer, integer] .string (.pure substring),
    function "toLowerCase" [string] .string (.pure (onString fun s => .string (Text.toLower s))),
    function "toUpperCase" [string] .string (.pure (onString fun s => .string (Text.toUpper s))),
    function "trim" [string] .string (.pure (onString (onChars Text.trim))),
    function "trimLeft" [string] .string (.pure (onString (onChars Text.trimStart))),
    function "trimRight" [string] .string (.pure (onString (onChars Text.trimEnd))),
    function "contains" [string, string] .boolean (.pure (onStrings containsText)),
    function "index" [string, string] .integer
      (.pure (onStrings fun s t => positionOf (Text.find? t.toList s.toList))),
    function "lastIndex" [string, string] .integer
      (.pure (onStrings fun s t => positionOf (Text.findLast? t.toList s.toList))),
    function "replaceAll" [string, string, string] .string (.pure replaceAll),
    function "padStart" [.oneOf [.string, .integer], integer, string] .string
      (padWith fun pad text => pad ++ text),
    function "padEnd" [.oneOf [.string, .integer], integer, string] .string
      (padWith fun pad text => text ++ pad),
    function "encodeUri" [string] .string
      (.pure (onString fun s => .string (Text.Percent.encode s))),
    function "decodeUri" [string] .string (.pure decodeUri),
    function "testRegex" [string, string] .boolean (.pure testRegex),
    function "encodeRegex" [string] .string (.pure (onString fun s => .string (Regex.escape s))),
    function "isEmpty" [string] .boolean (.pure (onString fun s => .boolean s.isEmpty)),
    method "len" [string] .integer (.pure (onString lengthOf)),
    method "contains" [string, string] .boolean (.pure (onStrings containsText)),
    method "isEmpty" [string] .boolean (.pure (onString fun s => .boolean s.isEmpty))]

end CardExpr.Builtin
