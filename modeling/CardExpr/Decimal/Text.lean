import CardExpr.Decimal.Shortest

/-! The texts of doubles: as values, as plain numbers, and in JSON. -/

namespace CardExpr.Decimal

/-- How a double is written; the functions are asked with the decimal exponent of its leading digit. -/
structure Style where
  tie : Tie
  positional : Int → Bool
  pointed : Int → Bool
  nan : String
  infinity : String

/-- The text of a number value: always positional, and whole values below `10 ^ 16` keep one place. -/
def Style.value : Style where
  tie := .up
  positional := fun _ => true
  pointed := fun e => decide (e < 16)
  nan := "NaN"
  infinity := "Infinity"

/-- The text of a number in a message: always positional, and whole values have no point. -/
def Style.plain : Style where
  tie := .up
  positional := fun _ => true
  pointed := fun _ => false
  nan := "NaN"
  infinity := "inf"

/-- The text of a finite number in JSON. -/
def Style.json : Style where
  tie := .even
  positional := fun e => decide (-5 ≤ e ∧ e < 16)
  pointed := fun _ => true
  nan := "null"
  infinity := "null"

def digitsOf (n : Nat) : List Char := Nat.toDigits 10 n

/-- The digits with the point after the first `point` of them. -/
def placePoint (style : Style) (digits : List Char) (point : Int) : List Char :=
  let count : Int := digits.length
  if point ≤ 0 then '0' :: '.' :: List.replicate point.natAbs '0' ++ digits
  else if point < count then digits.take point.toNat ++ '.' :: digits.drop point.toNat
  else
    let whole := digits ++ List.replicate (point - count).toNat '0'
    if style.pointed (point - 1) then whole ++ ['.', '0'] else whole

def withExponent (digits : List Char) (exponent : Int) : List Char :=
  let mantissa := match digits with
    | d :: e :: rest => d :: '.' :: e :: rest
    | short => short
  mantissa ++ 'e' :: (if exponent < 0 then '-' else '+') :: digitsOf exponent.natAbs

def magnitudeText (style : Style) (b : Binary64) : List Char :=
  let d := shortest style.tie b
  let digits := digitsOf d.digits
  let point := d.power + digits.length
  if style.positional (point - 1) then placePoint style digits point
  else withExponent digits (point - 1)

def Style.text (style : Style) (x : Float) : String :=
  match Binary64.ofFloat? x with
  | some b =>
    let magnitude := magnitudeText style b
    String.ofList (if b.negative then '-' :: magnitude else magnitude)
  | none =>
    if x.isNaN then style.nan else if x < 0 then "-" ++ style.infinity else style.infinity

end CardExpr.Decimal
