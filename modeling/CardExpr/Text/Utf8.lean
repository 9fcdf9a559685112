/-! Text and its bytes. -/

namespace CardExpr.Text

/-- Where bytes stop being text. `length` is the number of bytes that cannot begin a character; there
is none where the bytes end in the middle of one. -/
structure Utf8Error where
  validUpTo : Nat
  length : Option Nat
  deriving DecidableEq, Repr

def Utf8Error.message (e : Utf8Error) : String :=
  match e.length with
  | some n =>
    "invalid utf-8 sequence of " ++ toString n ++ " bytes from index " ++ toString e.validUpTo
  | none => "incomplete utf-8 byte sequence from index " ++ toString e.validUpTo

def encodeChar (c : Char) : List Nat :=
  let n := c.toNat
  if n < 0x80 then [n]
  else if n < 0x800 then [0xC0 + n / 64, 0x80 + n % 64]
  else if n < 0x10000 then [0xE0 + n / 4096, 0x80 + n / 64 % 64, 0x80 + n % 64]
  else [0xF0 + n / 262144, 0x80 + n / 4096 % 64, 0x80 + n / 64 % 64, 0x80 + n % 64]

def encode (cs : List Char) : List Nat := cs.flatMap encodeChar

def isTail (b : Nat) : Bool := decide (0x80 ≤ b ∧ b ≤ 0xBF)

/-- The first byte of a longer character: how many follow, its bits, and the bounds of the second. -/
def leader? (b : Nat) : Option (Nat × Nat × Nat × Nat) :=
  if 0xC2 ≤ b ∧ b ≤ 0xDF then some (1, b - 0xC0, 0x80, 0xBF)
  else if b = 0xE0 then some (2, 0, 0xA0, 0xBF)
  else if b = 0xED then some (2, 13, 0x80, 0x9F)
  else if 0xE1 ≤ b ∧ b ≤ 0xEF then some (2, b - 0xE0, 0x80, 0xBF)
  else if b = 0xF0 then some (3, 0, 0x90, 0xBF)
  else if 0xF1 ≤ b ∧ b ≤ 0xF3 then some (3, b - 0xF0, 0x80, 0xBF)
  else if b = 0xF4 then some (3, 4, 0x80, 0x8F)
  else none

/-- The bytes of a character behind its first one: the code point and the rest, or the number of good
bytes and whether there is a bad one behind them. -/
def tails : (count code good : Nat) → (low high : Nat) → List Nat →
    Except (Nat × Bool) (Nat × List Nat)
  | 0, code, _, _, _, rest => .ok (code, rest)
  | _ + 1, _, good, _, _, [] => .error (good, false)
  | count + 1, code, good, low, high, b :: rest =>
    if low ≤ b ∧ b ≤ high then tails count (code * 64 + b % 64) (good + 1) 0x80 0xBF rest
    else .error (good, true)

def decodeFrom : (fuel position : Nat) → List Nat → Except Utf8Error (List Char)
  | 0, _, _ => .ok []
  | _, _, [] => .ok []
  | fuel + 1, position, b :: rest =>
    if b < 0x80 then (decodeFrom fuel (position + 1) rest).map (Char.ofNat b :: ·)
    else match leader? b with
      | none => .error ⟨position, some 1⟩
      | some (count, code, low, high) =>
        match tails count code 1 low high rest with
        | .ok (code, rest) =>
          (decodeFrom fuel (position + count + 1) rest).map (Char.ofNat code :: ·)
        | .error (good, bad) => .error ⟨position, if bad then some good else none⟩

def decode (bytes : List Nat) : Except Utf8Error (List Char) := decodeFrom bytes.length 0 bytes

end CardExpr.Text
