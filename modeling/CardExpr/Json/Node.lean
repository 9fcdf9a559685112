import CardExpr.Json.Basic
import CardExpr.Decimal.Reader

/-!
JSON text as a tree of nodes. A node whose literal spells no value, such as a number too large for a
double or half of a surrogate pair, is well formed but has no value; it matters only where the value
is asked for.
-/

namespace CardExpr.Json

inductive Node where
  | null
  | bool (value : Bool)
  | number (value : Option JsonNumber)
  | string (value : Option String)
  | array (items : List Node)
  | object (members : List (Option String × Node))

namespace Node

def isSpace (c : Char) : Bool := c = ' ' || c = '\n' || c = '\t' || c = '\r'

def skipSpace (cs : List Char) : List Char := cs.dropWhile isSpace

def hexValue? (c : Char) : Option Nat :=
  if '0' ≤ c ∧ c ≤ '9' then some (c.toNat - 48)
  else if 'a' ≤ c ∧ c ≤ 'f' then some (c.toNat - 87)
  else if 'A' ≤ c ∧ c ≤ 'F' then some (c.toNat - 55)
  else none

/-- One escape or plain character of a string as a UTF-16 unit or a code point, and the rest. -/
def readUnit : List Char → Option (Nat × List Char)
  | '\\' :: 'u' :: a :: b :: c :: d :: rest => do
    let a ← hexValue? a
    let b ← hexValue? b
    let c ← hexValue? c
    let d ← hexValue? d
    pure (((a * 16 + b) * 16 + c) * 16 + d, rest)
  | '\\' :: e :: rest =>
    match e with
    | '"' => some (34, rest)
    | '\\' => some (92, rest)
    | '/' => some (47, rest)
    | 'b' => some (8, rest)
    | 'f' => some (12, rest)
    | 'n' => some (10, rest)
    | 'r' => some (13, rest)
    | 't' => some (9, rest)
    | _ => none
  | '\\' :: [] => none
  | c :: rest => if c.toNat < 32 then none else some (c.toNat, rest)
  | [] => none

def readUnits : (fuel : Nat) → List Char → Option (List Nat × List Char)
  | 0, _ => none
  | _ + 1, '"' :: rest => some ([], rest)
  | fuel + 1, cs => do
    let (unit, rest) ← readUnit cs
    let (units, rest) ← readUnits fuel rest
    pure (unit :: units, rest)

def isHigh (n : Nat) : Bool := decide (0xD800 ≤ n ∧ n ≤ 0xDBFF)

def isLow (n : Nat) : Bool := decide (0xDC00 ≤ n ∧ n ≤ 0xDFFF)

/-- Characters from units: a surrogate counts only as part of a pair. -/
def joinUnits : List Nat → Option (List Char)
  | [] => some []
  | [n] => if isHigh n || isLow n then none else some [Char.ofNat n]
  | n :: m :: rest =>
    if isHigh n then
      if isLow m then
        (joinUnits rest).map (Char.ofNat (0x10000 + (n - 0xD800) * 0x400 + (m - 0xDC00)) :: ·)
      else none
    else if isLow n then none
    else (joinUnits (m :: rest)).map (Char.ofNat n :: ·)

def readString (cs : List Char) : Option (Option String × List Char) := do
  let (units, rest) ← readUnits (cs.length + 1) cs
  pure ((joinUnits units).map String.ofList, rest)

/-- The digits that still fit a significand of 64 bits, how many were taken, and the rest. -/
def takeDigits (significand taken : Nat) : List Char → Nat × Nat × List Char
  | [] => (significand, taken, [])
  | c :: cs =>
    let next := significand * 10 + Decimal.digitValue c
    if Decimal.isDigit c ∧ next < UInt64.size then takeDigits next (taken + 1) cs
    else (significand, taken, c :: cs)

/-- `significand * 10 ^ power` with one rounding for the significand and one for each power of ten
that it is multiplied or divided by; nothing when it is too large. -/
def scale (x : Float) (power : Int) : (fuel : Nat) → Option Float
  | 0 => some x
  | fuel + 1 =>
    let ten (n : Nat) : Float := Decimal.ofDecimal false 1 n
    if power.natAbs ≤ 308 then
      if power < 0 then some (x / ten power.natAbs)
      else
        let y := x * ten power.natAbs
        if y.isInf then none else some y
    else if x == 0 then some x
    else if power < 0 then scale (x / ten 308) (power + 308) fuel
    else none

def signed (negative : Bool) (x : Float) : Float := if negative then -x else x

def scaled (negative : Bool) (significand : Nat) (power : Int) : Option JsonNumber :=
  (scale (Decimal.ofRatio false significand 1) power (power.natAbs / 308 + 2)).map fun x =>
    .float (signed negative x)

/-- An exponent too long for 31 bits makes zero of anything it divides, and of zero. -/
def withExponent (negative : Bool) (significand : Nat) (power : Int) (cs : List Char) :
    Option (Option JsonNumber × List Char) :=
  let (down, rest) := Decimal.takeSign cs
  let (digits, rest) := rest.span Decimal.isDigit
  if digits.isEmpty then none
  else
    let n := Decimal.natOfDigits digits
    let value :=
      if Decimal.twoPow 31 ≤ n then
        if significand ≠ 0 ∧ !down then none else some (.float (signed negative 0.0))
      else scaled negative significand (if down then power - n else power + n)
    some (value, rest)

def afterFraction (negative : Bool) (significand : Nat) (power : Int) (cs : List Char) :
    Option (Option JsonNumber × List Char) :=
  match cs with
  | 'e' :: rest => withExponent negative significand power rest
  | 'E' :: rest => withExponent negative significand power rest
  | _ => some (scaled negative significand power, cs)

/-- A fraction; digits beyond the ones that fit the significand do not count. -/
def withFraction (negative : Bool) (significand : Nat) (power : Int) (cs : List Char) :
    Option (Option JsonNumber × List Char) :=
  match cs with
  | c :: _ =>
    if Decimal.isDigit c then
      let (significand, taken, rest) := takeDigits significand 0 cs
      afterFraction negative significand (power - taken) (rest.dropWhile Decimal.isDigit)
    else none
  | [] => none

def wholeNumber (negative : Bool) (significand : Nat) : JsonNumber :=
  if !negative then .int significand
  else if significand = 0 ∨ Decimal.twoPow 63 < significand then
    .float (-(Decimal.ofRatio false significand 1))
  else .int (-(significand : Int))

/-- A number behind its sign. Of a whole part too long for 64 bits the last digits only count as a
power of ten. -/
def readNumber (negative : Bool) (cs : List Char) : Option (Option JsonNumber × List Char) :=
  match cs with
  | '0' :: d :: _ => if Decimal.isDigit d then none else tail 0 0 (cs.drop 1)
  | c :: _ =>
    if Decimal.isDigit c then
      let (significand, _, rest) := takeDigits 0 0 cs
      let (extra, rest) := rest.span Decimal.isDigit
      tail significand extra.length rest
    else none
  | [] => none
where
  tail (significand extra : Nat) (rest : List Char) : Option (Option JsonNumber × List Char) :=
    match rest with
    | '.' :: more => withFraction negative significand extra more
    | 'e' :: more => withExponent negative significand extra more
    | 'E' :: more => withExponent negative significand extra more
    | _ =>
      if extra = 0 then some (some (wholeNumber negative significand), rest)
      else some (scaled negative significand extra, rest)

mutual

def readValue : (fuel : Nat) → List Char → Option (Node × List Char)
  | 0, _ => none
  | fuel + 1, cs =>
    match skipSpace cs with
    | 'n' :: 'u' :: 'l' :: 'l' :: rest => some (.null, rest)
    | 't' :: 'r' :: 'u' :: 'e' :: rest => some (.bool true, rest)
    | 'f' :: 'a' :: 'l' :: 's' :: 'e' :: rest => some (.bool false, rest)
    | '"' :: rest => (readString rest).map fun (s, rest) => (.string s, rest)
    | '[' :: rest =>
      match skipSpace rest with
      | ']' :: rest => some (.array [], rest)
      | rest => (readItems fuel rest).map fun (items, rest) => (.array items, rest)
    | '\x7b' :: rest =>
      match skipSpace rest with
      | '\x7d' :: rest => some (.object [], rest)
      | rest => (readMembers fuel rest).map fun (members, rest) => (.object members, rest)
    | '-' :: rest => (readNumber true rest).map fun (n, rest) => (.number n, rest)
    | rest => (readNumber false rest).map fun (n, rest) => (.number n, rest)

def readItems : (fuel : Nat) → List Char → Option (List Node × List Char)
  | 0, _ => none
  | fuel + 1, cs => do
    let (item, rest) ← readValue fuel cs
    match skipSpace rest with
    | ',' :: rest =>
      let (items, rest) ← readItems fuel rest
      pure (item :: items, rest)
    | ']' :: rest => pure ([item], rest)
    | _ => none

def readMembers : (fuel : Nat) → List Char → Option (List (Option String × Node) × List Char)
  | 0, _ => none
  | fuel + 1, cs =>
    match skipSpace cs with
    | '"' :: rest => do
      let (key, rest) ← readString rest
      match skipSpace rest with
      | ':' :: rest =>
        let (value, rest) ← readValue fuel rest
        match skipSpace rest with
        | ',' :: rest =>
          let (members, rest) ← readMembers fuel rest
          pure ((key, value) :: members, rest)
        | '\x7d' :: rest => pure ([(key, value)], rest)
        | _ => none
      | _ => none
    | _ => none

end

/-- A text holds one value and blanks around it. Each level of the recursion but a closing one
consumes a character, so twice the length is enough. -/
def read? (text : String) : Option Node := do
  let cs := text.toList
  let (node, rest) ← readValue (2 * cs.length + 2) cs
  if (skipSpace rest).isEmpty then some node else none

def maxNesting : Nat := 127

mutual

/-- The value of a node in which at most `levels` arrays and objects nest. Of two members of one name
the later one counts. -/
def value? (levels : Nat) : Node → Option Json
  | .null => some .null
  | .bool b => some (.bool b)
  | .number n => n.map .number
  | .string s => s.map .string
  | .array items =>
    match levels with
    | 0 => none
    | levels + 1 => (items? levels items).map .array
  | .object members =>
    match levels with
    | 0 => none
    | levels + 1 => (members? levels members).map fun entries => .object (Table.ofList entries)

def items? (levels : Nat) : List Node → Option (List Json)
  | [] => some []
  | x :: xs => do
    let y ← value? levels x
    let ys ← items? levels xs
    pure (y :: ys)

def members? (levels : Nat) : List (Option String × Node) → Option (List (String × Json))
  | [] => some []
  | (key, x) :: rest => do
    let key ← key
    let y ← value? levels x
    let ys ← members? levels rest
    pure ((key, y) :: ys)

end

mutual

def ofJson : Json → Node
  | .null => .null
  | .bool b => .bool b
  | .number n => .number (some n)
  | .string s => .string (some s)
  | .array items => .array (ofItems items)
  | .object members => .object (ofMembers members)

def ofItems : List Json → List Node
  | [] => []
  | x :: xs => ofJson x :: ofItems xs

def ofMembers : List (String × Json) → List (Option String × Node)
  | [] => []
  | (key, x) :: rest => (some key, ofJson x) :: ofMembers rest

end

/-- The nodes of a record's fields. A record is an object, in which unknown members do not count and
known ones occur at most once, or an array of the fields in order. -/
def fields? (names : List String) : Node → Option (List (Option Node))
  | .array items =>
    if items.length ≤ names.length then
      some ((List.range names.length).map fun i => items[i]?)
    else none
  | .object members =>
    if members.any (·.1.isNone) then none
    else names.mapM fun name =>
      match members.filter (fun m => m.1 == some name) with
      | [] => some none
      | [m] => some (some m.2)
      | _ => none
  | _ => none

def string? : Node → Option String
  | .string s => s
  | _ => none

def bool? : Node → Option Bool
  | .bool b => some b
  | _ => none

def array? : Node → Option (List Node)
  | .array items => some items
  | _ => none

def natural? : Node → Option Nat
  | .number (some (.int n)) => if 0 ≤ n then some n.toNat else none
  | _ => none

/-- The name of a choice: a string, or an object with that one member and no content. -/
def choice? : Node → Option String
  | .string s => s
  | .object [(key, .null)] => key
  | _ => none

end Node

def read? (text : String) : Option Json := do
  let node ← Node.read? text
  node.value? Node.maxNesting

end CardExpr.Json
