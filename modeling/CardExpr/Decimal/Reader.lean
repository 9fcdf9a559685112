import CardExpr.Decimal.Binary64

/-! Reading whole numbers and doubles from text. -/

namespace CardExpr.Decimal

def isDigit (c : Char) : Bool := decide ('0' ≤ c ∧ c ≤ '9')

def digitValue (c : Char) : Nat := c.toNat - 48

def natOfDigits (cs : List Char) : Nat := cs.foldl (fun n c => 10 * n + digitValue c) 0

def takeSign : List Char → Bool × List Char
  | '-' :: cs => (true, cs)
  | '+' :: cs => (false, cs)
  | cs => (false, cs)

def int64? (n : Int) : Option Int64 :=
  if Int64.minValue.toInt ≤ n ∧ n ≤ Int64.maxValue.toInt then some (Int64.ofInt n) else none

/-- An optional sign and decimal digits, within the range of 64 bits. -/
def readInteger (cs : List Char) : Option Int64 :=
  let (negative, digits) := takeSign cs
  if digits.isEmpty || !digits.all isDigit then none
  else
    let n := natOfDigits digits
    int64? (if negative then -(n : Int) else n)

/-- The double nearest to `digits * 10 ^ power`. Beyond the range of doubles the power of ten is
not computed. -/
def ofDecimal (negative : Bool) (digits : Nat) (power : Int) : Float :=
  let length : Int := (Nat.toDigits 10 digits).length
  if digits = 0 then ofRatio negative 0 1
  else if 310 < length + power then ofRatio negative (twoPow 1025) 1
  else if length + power < -330 then ofRatio negative 0 1
  else if power < 0 then ofRatio negative digits (tenPow power.natAbs)
  else ofRatio negative (digits * tenPow power.natAbs) 1

/-- An exponent part: nothing, or a letter `e`, an optional sign and digits up to the end. -/
def readExponent : List Char → Option Int
  | [] => some 0
  | c :: cs =>
    if c = 'e' ∨ c = 'E' then
      let (negative, digits) := takeSign cs
      if digits.isEmpty || !digits.all isDigit then none
      else
        let n := natOfDigits digits
        some (if negative then -(n : Int) else n)
    else none

/-- Digits with an optional fraction and exponent; there is a digit before or after the point. -/
def readMagnitude (negative : Bool) (cs : List Char) : Option Float :=
  let (whole, rest) := cs.span isDigit
  let (fraction, rest) := match rest with
    | '.' :: more => more.span isDigit
    | _ => ([], rest)
  if whole.isEmpty && fraction.isEmpty then none
  else
    (readExponent rest).map fun exponent =>
      ofDecimal negative (natOfDigits (whole ++ fraction)) (exponent - fraction.length)

def nonFinite (negative : Bool) (cs : List Char) : Option Float :=
  let word := String.ofList (cs.map Char.toLower)
  let magnitude : Option Float :=
    if word = "inf" || word = "infinity" then some (1.0 / 0.0)
    else if word = "nan" then some (0.0 / 0.0)
    else none
  magnitude.map fun x => if negative then -x else x

/-- A double: an optional sign, then a decimal or one of the words `inf`, `infinity` and `nan` in any
letter case. -/
def readFloat (cs : List Char) : Option Float :=
  let (negative, rest) := takeSign cs
  match nonFinite negative rest with
  | some x => some x
  | none => readMagnitude negative rest

end CardExpr.Decimal
