import CardExpr.Text.Utf8

/-! Percent encoding of the components of a URI. -/

namespace CardExpr.Text.Percent

/-- Letters, digits and nine marks stand for themselves. -/
def isPlain (b : Nat) : Bool :=
  decide (48 ≤ b ∧ b ≤ 57) || decide (65 ≤ b ∧ b ≤ 90) || decide (97 ≤ b ∧ b ≤ 122) ||
    b == 45 || b == 95 || b == 46 || b == 33 || b == 126 || b == 42 || b == 39 || b == 40 || b == 41

def hexDigit (n : Nat) : Char := if n < 10 then Char.ofNat (48 + n) else Char.ofNat (55 + n)

def encodeByte (b : Nat) : List Char :=
  if isPlain b then [Char.ofNat b] else ['%', hexDigit (b / 16), hexDigit (b % 16)]

def encode (text : String) : String :=
  String.ofList ((Text.encode text.toList).flatMap encodeByte)

def hexValue? (b : Nat) : Option Nat :=
  if 48 ≤ b ∧ b ≤ 57 then some (b - 48)
  else if 65 ≤ b ∧ b ≤ 70 then some (b - 55)
  else if 97 ≤ b ∧ b ≤ 102 then some (b - 87)
  else none

/-- A percent sign without two digits behind it is kept. -/
def decodeBytes : List Nat → List Nat
  | [] => []
  | b :: rest =>
    if b = 37 then
      match rest with
      | x :: y :: more =>
        match hexValue? x, hexValue? y with
        | some h, some l => (16 * h + l) :: decodeBytes more
        | _, _ => b :: decodeBytes (x :: y :: more)
      | short => b :: decodeBytes short
    else b :: decodeBytes rest

def decode (text : String) : Except Utf8Error String :=
  (Text.decode (decodeBytes (Text.encode text.toList))).map String.ofList

end CardExpr.Text.Percent
