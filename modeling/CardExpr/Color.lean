import CardExpr.Decimal.Reader

/-! Colors of four channels. -/

namespace CardExpr

/-- Alpha, red, green and blue, eight bits each. -/
structure Color where
  argb : UInt32
  deriving DecidableEq, Repr

inductive Channel where
  | alpha
  | red
  | green
  | blue
  deriving DecidableEq, Repr

def Channel.shift : Channel → UInt32
  | .alpha => 24
  | .red => 16
  | .green => 8
  | .blue => 0

structure ColorError where
  text : String
  deriving DecidableEq, Repr

def ColorError.message (e : ColorError) : String :=
  "invalid color '" ++ e.text ++ "': expected #RGB, #ARGB, #RRGGBB or #AARRGGBB"

namespace Color

def ofChannels (alpha red green blue : UInt8) : Color :=
  ⟨alpha.toUInt32 <<< 24 ||| red.toUInt32 <<< 16 ||| green.toUInt32 <<< 8 ||| blue.toUInt32⟩

def channel (c : Color) (k : Channel) : UInt8 := (c.argb >>> k.shift).toUInt8

def withChannel (c : Color) (k : Channel) (value : UInt8) : Color :=
  ⟨(c.argb &&& ~~~((0xFF : UInt32) <<< k.shift)) ||| (value.toUInt32 <<< k.shift)⟩

def hexDigit? (c : Char) : Option Nat :=
  if '0' ≤ c ∧ c ≤ '9' then some (c.toNat - 48)
  else if 'a' ≤ c ∧ c ≤ 'f' then some (c.toNat - 87)
  else if 'A' ≤ c ∧ c ≤ 'F' then some (c.toNat - 55)
  else none

/-- Another digit behind those of a number, where 32 bits still hold it. -/
def appendDigit (n : UInt32) (c : Char) : Option UInt32 := do
  let digit ← hexDigit? c
  let longer := 16 * n.toNat + digit
  if longer < UInt32.size then some (UInt32.ofNat longer) else none

/-- The number of 32 bits that is written in hexadecimal digits. -/
def readHex? (digits : List Char) : Option UInt32 :=
  if digits.isEmpty then none else digits.foldlM appendDigit 0

def digitAt (digits : UInt32) (i : Nat) : UInt32 := (digits >>> UInt32.ofNat (4 * i)) &&& 0xF

def appendTwice (expanded digit : UInt32) : UInt32 := (expanded <<< 8) ||| (digit <<< 4) ||| digit

/-- The number in which each of the last digits is written twice. -/
def expand (digits : UInt32) (count : Nat) : UInt32 :=
  (List.range count).reverse.foldl (fun expanded i => appendTwice expanded (digitAt digits i)) 0

/-- Three and four digits stand for six and eight, each written twice; without alpha a color is
opaque. -/
def parse (text : String) : Except ColorError Color :=
  match text.toList with
  | '#' :: hex =>
    if hex.all fun c => (hexDigit? c).isSome then
      match readHex? hex, hex.length with
      | some value, 3 => .ok ⟨0xFF000000 ||| expand value 3⟩
      | some value, 4 => .ok ⟨expand value 4⟩
      | some value, 6 => .ok ⟨0xFF000000 ||| value⟩
      | some value, 8 => .ok ⟨value⟩
      | _, _ => .error ⟨text⟩
    else .error ⟨text⟩
  | _ => .error ⟨text⟩

def upperHexDigit (n : Nat) : Char := if n < 10 then Char.ofNat (48 + n) else Char.ofNat (55 + n)

/-- A number sign and eight capital digits. -/
def text (c : Color) : String :=
  String.ofList
    ('#' :: [28, 24, 20, 16, 12, 8, 4, 0].map fun k => upperHexDigit ((c.argb.toNat >>> k) % 16))

end Color

end CardExpr
