import CardExpr.Decimal.Reader
import CardExpr.Decimal.Text
import CardExpr.Table

/-! JSON values and their texts. -/

namespace CardExpr

/-- Integers of 64 bits, signed or unsigned, stay integers; every other number is a double. -/
inductive JsonNumber where
  | int (value : Int)
  | float (value : Float)

inductive Json where
  | null
  | bool (value : Bool)
  | number (value : JsonNumber)
  | string (value : String)
  | array (items : List Json)
  | object (members : List (String × Json))

namespace JsonNumber

def int64? : JsonNumber → Option Int64
  | .int n => Decimal.int64? n
  | .float _ => none

/-- The nearest double. -/
def toFloat : JsonNumber → Float
  | .int n => Decimal.ofRatio (decide (n < 0)) n.natAbs 1
  | .float x => x

def text : JsonNumber → String
  | .int n => toString n
  | .float x => Decimal.Style.json.text x

end JsonNumber

namespace Json

/-- Only what has to be escaped is: quotes, backslashes and control characters. -/
def escapeChar (c : Char) : List Char :=
  if c = '"' then ['\\', '"']
  else if c = '\\' then ['\\', '\\']
  else if c = '\x08' then ['\\', 'b']
  else if c = '\x0c' then ['\\', 'f']
  else if c = '\n' then ['\\', 'n']
  else if c = '\r' then ['\\', 'r']
  else if c = '\t' then ['\\', 't']
  else if c.toNat < 32 then
    ['\\', 'u', '0', '0', Nat.digitChar (c.toNat / 16), Nat.digitChar (c.toNat % 16)]
  else [c]

def quote (text : String) : String :=
  String.ofList ('"' :: text.toList.flatMap escapeChar ++ ['"'])

mutual

/-- The text without blanks. -/
def compact : Json → String
  | .null => "null"
  | .bool b => if b then "true" else "false"
  | .number n => n.text
  | .string s => quote s
  | .array items => "[" ++ compactItems items ++ "]"
  | .object members => "\x7b" ++ compactMembers members ++ "\x7d"

def compactItems : List Json → String
  | [] => ""
  | [x] => compact x
  | x :: xs => compact x ++ "," ++ compactItems xs

def compactMembers : List (String × Json) → String
  | [] => ""
  | [(k, v)] => quote k ++ ":" ++ compact v
  | (k, v) :: rest => quote k ++ ":" ++ compact v ++ "," ++ compactMembers rest

end

def newline (depth : Nat) : String := "\n" ++ "".pushn ' ' (2 * depth)

mutual

/-- The text with one element a line, indented by two blanks a level. -/
def pretty (depth : Nat) : Json → String
  | .array [] => "[]"
  | .object [] => "\x7b\x7d"
  | .array items => "[" ++ prettyItems (depth + 1) items ++ newline depth ++ "]"
  | .object members => "\x7b" ++ prettyMembers (depth + 1) members ++ newline depth ++ "\x7d"
  | .null => "null"
  | .bool b => if b then "true" else "false"
  | .number n => n.text
  | .string s => quote s

def prettyItems (depth : Nat) : List Json → String
  | [] => ""
  | [x] => newline depth ++ pretty depth x
  | x :: xs => newline depth ++ pretty depth x ++ "," ++ prettyItems depth xs

def prettyMembers (depth : Nat) : List (String × Json) → String
  | [] => ""
  | [(k, v)] => newline depth ++ quote k ++ ": " ++ pretty depth v
  | (k, v) :: rest =>
    newline depth ++ quote k ++ ": " ++ pretty depth v ++ "," ++ prettyMembers depth rest

end

end Json

end CardExpr
