/-! Doubles as exact rationals: taking one apart, and rounding a ratio to the nearest one. -/

namespace CardExpr.Decimal

def twoPow (n : Nat) : Nat := Nat.pow 2 n

def tenPow (n : Nat) : Nat := Nat.pow 10 n

/-- A finite double of magnitude `significand * 2 ^ exponent`. -/
structure Binary64 where
  negative : Bool
  significand : Nat
  exponent : Int
  deriving DecidableEq, Repr

def signBit (x : Float) : Bool := decide (twoPow 63 ≤ x.toBits.toNat)

/-- The parts of a finite double; infinities and NaN have none. -/
def Binary64.ofFloat? (x : Float) : Option Binary64 :=
  let bits := x.toBits.toNat
  let biased : Nat := bits / twoPow 52 % 2048
  let fraction : Nat := bits % twoPow 52
  if biased = 2047 then none
  else if biased = 0 then some ⟨signBit x, fraction, -1074⟩
  else some ⟨signBit x, fraction + twoPow 52, (biased : Int) - 1075⟩

/-- The quotient rounded to the nearest integer, a tie to the even one. -/
def roundDiv (num den : Nat) : Nat :=
  let floor := num / den
  let twice := 2 * (num % den)
  if twice < den then floor
  else if den < twice then floor + 1
  else floor + floor % 2

/-- `num / den` scaled by `2 ^ (-exponent)`, as a ratio. -/
def scaled (num den : Nat) (exponent : Int) : Nat × Nat :=
  if exponent < 0 then (num * twoPow exponent.natAbs, den) else (num, den * twoPow exponent.natAbs)

/-- The exponent with which `num / den` has 53 significant bits, or the least one there is. -/
def exponentOf (num den : Nat) : Int :=
  let guess : Int := (num.log2 : Int) - den.log2 - 53
  let high := let (n, d) := scaled num den guess; twoPow 53 ≤ n / d
  max (if high then guess + 1 else guess) (-1074)

/-- The double nearest to `num / den`, a tie to the even significand; infinite when too large. -/
def ofRatio (negative : Bool) (num den : Nat) : Float :=
  let sign : Nat := if negative then twoPow 63 else 0
  if num = 0 then Float.ofBits sign.toUInt64
  else
    let exponent := exponentOf num den
    let (n, d) := scaled num den exponent
    let significand := roundDiv n d
    let bits :=
      if significand < twoPow 52 then significand
      else (exponent + 1075).toNat * twoPow 52 + (significand - twoPow 52)
    Float.ofBits (sign + min bits (2047 * twoPow 52)).toUInt64

def Binary64.toFloat (b : Binary64) : Float :=
  if b.exponent < 0 then ofRatio b.negative b.significand (twoPow b.exponent.natAbs)
  else ofRatio b.negative (b.significand * twoPow b.exponent.natAbs) 1

/-- The remainder of the division rounded toward zero, exact and with the sign of `x`. -/
def remainder (x y : Float) : Float :=
  match Binary64.ofFloat? x, Binary64.ofFloat? y with
  | some a, some b =>
    if b.significand = 0 then 0.0 / 0.0
    else
      let low := min a.exponent b.exponent
      let m := a.significand * twoPow (a.exponent - low).natAbs
      let n := b.significand * twoPow (b.exponent - low).natAbs
      Binary64.toFloat ⟨a.negative, m % n, low⟩
  | some _, none => if y.isNaN then y else x
  | none, _ => 0.0 / 0.0

def truncate (x : Float) : Float := if x < 0 then x.ceil else x.floor

def copySign (x y : Float) : Float :=
  let magnitude := x.toBits.toNat % twoPow 63
  Float.ofBits (if signBit y then magnitude + twoPow 63 else magnitude).toUInt64

end CardExpr.Decimal
