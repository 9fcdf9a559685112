import CardExpr.Builtin.Entry
import CardExpr.Decimal.Text

/-! Colors and their channels, whose intensities run from zero to one. -/

namespace CardExpr.Builtin

/-- The eight bits nearest to an intensity. -/
def component (args : Args) (index : Nat) : Except EvalError UInt8 := do
  let x ← args.number index
  if 0.0 ≤ x ∧ x ≤ 1.0 then pure (x * 255.0).round.toUInt8
  else args.fail (.componentOutOfRange (Decimal.Style.plain.text x))

def argb (args : Args) : Except EvalError Value := do
  let a ← component args 0
  let r ← component args 1
  let g ← component args 2
  let b ← component args 3
  pure (.color (Color.ofChannels a r g b))

def rgb (args : Args) : Except EvalError Value := do
  let r ← component args 0
  let g ← component args 1
  let b ← component args 2
  pure (.color (Color.ofChannels 0xFF r g b))

def getChannel (k : Channel) (args : Args) : Except EvalError Value := do
  let c ← args.color 0
  pure (.number ((c.channel k).toFloat / 255.0))

def setChannel (k : Channel) (args : Args) : Except EvalError Value := do
  let c ← args.color 0
  let value ← component args 1
  pure (.color (c.withChannel k value))

def channels : List (String × Channel) :=
  [("Alpha", .alpha), ("Red", .red), ("Green", .green), ("Blue", .blue)]

def colors : List Entry :=
  [function "argb" [number, number, number, number] .color (.pure argb),
    function "rgb" [number, number, number] .color (.pure rgb)] ++
  channels.flatMap fun (name, k) =>
    [function ("getColor" ++ name) [color] .number (.pure (getChannel k)),
      function ("setColor" ++ name) [color, number] .color (.pure (setChannel k))]

end CardExpr.Builtin
