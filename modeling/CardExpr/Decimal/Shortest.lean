import CardExpr.Decimal.Binary64

/-! The fewest decimal digits that read back as a given double. -/

namespace CardExpr.Decimal

/-- What is taken when two decimals of the same length are equally near. -/
inductive Tie where
  | up
  | even
  deriving DecidableEq, Repr

structure Numeral where
  digits : Nat
  power : Int
  deriving DecidableEq, Repr

/-- A positive double over a common denominator, with the interval of reals that round to it. -/
structure Interval where
  low : Nat
  value : Nat
  high : Nat
  den : Nat
  closed : Bool
  deriving DecidableEq, Repr

def Interval.contains (i : Interval) (num : Nat) : Bool :=
  if i.closed then decide (i.low ≤ num ∧ num ≤ i.high) else decide (i.low < num ∧ num < i.high)

/-- Everything is counted in quarters of the last binary place: the gap below a power of two is
half as wide as the one above it. -/
def Interval.of (b : Binary64) : Interval :=
  let below := if b.significand = twoPow 52 ∧ b.exponent ≠ -1074 then 1 else 2
  let (up, den) := if b.exponent < 0 then (1, 4 * twoPow b.exponent.natAbs) else (twoPow b.exponent.natAbs, 4)
  { low := (4 * b.significand - below) * up
    value := 4 * b.significand * up
    high := (4 * b.significand + 2) * up
    den := den
    closed := b.significand % 2 = 0 }

def Interval.rescale (i : Interval) (power : Int) : Interval :=
  if power < 0 then
    let k := tenPow power.natAbs
    { i with low := i.low * k, value := i.value * k, high := i.high * k }
  else { i with den := i.den * tenPow power.natAbs }

/-- The grid point nearest to the value, if a neighbour of the value lies in the interval. -/
def Interval.nearest? (i : Interval) (tie : Tie) : Option Nat :=
  let floor := i.value / i.den
  let rest := i.value % i.den
  let lowIn := i.contains (floor * i.den)
  let highIn := i.contains ((floor + 1) * i.den)
  match lowIn, highIn with
  | false, false => none
  | true, false => some floor
  | false, true => some (floor + 1)
  | true, true =>
    if 2 * rest < i.den then some floor
    else if i.den < 2 * rest then some (floor + 1)
    else match tie with
      | .up => some (floor + 1)
      | .even => some (floor + floor % 2)

/-- The decimal exponent of the leading digit of `num / den`. -/
def leadingPower (num den : Nat) : Int :=
  let guess : Int := ((num.log2 : Int) - den.log2) * 30103 / 100000
  let fits (p : Int) : Bool :=
    if p < 0 then den ≤ num * tenPow p.natAbs else den * tenPow p.natAbs ≤ num
  if fits (guess + 1) then guess + 1 else if fits guess then guess else guess - 1

def searchShortest (i : Interval) (tie : Tie) (lead : Int) : (count tried : Nat) → Numeral
  | 0, tried =>
    let power := lead - tried
    let r := i.rescale power
    ⟨r.value / r.den, power⟩
  | count + 1, tried =>
    let power := lead - tried
    match (i.rescale power).nearest? tie with
    | some digits => ⟨digits, power⟩
    | none => searchShortest i tie lead count (tried + 1)

def stripZeros : Nat → Numeral → Numeral
  | 0, d => d
  | fuel + 1, d =>
    if d.digits ≠ 0 ∧ d.digits % 10 = 0 then stripZeros fuel ⟨d.digits / 10, d.power + 1⟩ else d

/-- The shortest decimal that reads back as the magnitude of `b`, the nearest one of those. -/
def shortest (tie : Tie) (b : Binary64) : Numeral :=
  if b.significand = 0 then ⟨0, 0⟩
  else
    let i := Interval.of b
    stripZeros 20 (searchShortest i tie (leadingPower i.value i.den) 17 0)

end CardExpr.Decimal
