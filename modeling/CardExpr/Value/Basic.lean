import CardExpr.Calendar.Text
import CardExpr.Color
import CardExpr.Json.Basic

/-! The values of variables and expressions. -/

namespace CardExpr

open Calendar (DateTime)

inductive ValueType where
  | integer
  | number
  | string
  | boolean
  | color
  | url
  | datetime
  | array
  | dict
  deriving DecidableEq, Repr

namespace ValueType

def all : List ValueType :=
  [.integer, .number, .string, .boolean, .color, .url, .datetime, .array, .dict]

def name : ValueType → String
  | .integer => "integer"
  | .number => "number"
  | .string => "string"
  | .boolean => "boolean"
  | .color => "color"
  | .url => "url"
  | .datetime => "datetime"
  | .array => "array"
  | .dict => "dict"

def ofName? (name : String) : Option ValueType := all.find? (fun t => t.name == name)

theorem ofName?_name (t : ValueType) : ofName? t.name = some t := by
  cases t <;> decide

end ValueType

/-- A value. The entries of a dict stand in the order of their keys. -/
inductive Value where
  | integer (value : Int64)
  | number (value : Float)
  | string (value : String)
  | boolean (value : Bool)
  | color (value : Color)
  | url (value : String)
  | datetime (value : DateTime)
  | array (items : List Value)
  | dict (entries : List (String × Value))

namespace Value

def type : Value → ValueType
  | .integer _ => .integer
  | .number _ => .number
  | .string _ => .string
  | .boolean _ => .boolean
  | .color _ => .color
  | .url _ => .url
  | .datetime _ => .datetime
  | .array _ => .array
  | .dict _ => .dict

mutual

/-- Equality as programs see it: a NaN differs from itself, and both zeros are one. -/
def same : Value → Value → Bool
  | .integer a, .integer b => a == b
  | .number a, .number b => a == b
  | .string a, .string b => a == b
  | .boolean a, .boolean b => a == b
  | .color a, .color b => decide (a = b)
  | .url a, .url b => a == b
  | .datetime a, .datetime b => decide (a = b)
  | .array a, .array b => sameItems a b
  | .dict a, .dict b => sameEntries a b
  | _, _ => false

def sameItems : List Value → List Value → Bool
  | [], [] => true
  | a :: as, b :: bs => same a b && sameItems as bs
  | _, _ => false

def sameEntries : List (String × Value) → List (String × Value) → Bool
  | [], [] => true
  | (k, a) :: as, (l, b) :: bs => k == l && same a b && sameEntries as bs
  | _, _ => false

end

theorem same_integer_iff (v : Value) (n : Int64) : v.same (.integer n) = true ↔ v = .integer n := by
  cases v <;> simp [same]

theorem same_boolean_iff (v : Value) (b : Bool) : v.same (.boolean b) = true ↔ v = .boolean b := by
  cases v <;> simp [same]

/-- An outcome that equals a value as programs see it is that value, if no other one does. -/
theorem eq_ok_of_same {ε : Type} {outcome : Except ε Value} {v : Value} (only : ∀ w, w.same v = true → w = v)
    (same : outcome.toOption.any (·.same v) = true) : outcome = .ok v := by
  cases outcome with
  | error e => cases same
  | ok w => rw [only w same]

/-- A numeric value as a double. -/
def number? : Value → Option Float
  | .integer n => some n.toFloat
  | .number x => some x
  | _ => none

/-- The value as a variable of type `t` holds it: an integer is widened for a number, and nothing else
is converted. -/
def conform? (v : Value) (t : ValueType) : Option Value :=
  match v, t with
  | .integer n, .number => some (.number n.toFloat)
  | v, t => if v.type = t then some v else none

mutual

def toJson : Value → Json
  | .integer n => .number (.int n.toInt)
  | .number x => if x.isFinite then .number (.float x) else .null
  | .string s => .string s
  | .boolean b => .bool b
  | .color c => .string c.text
  | .url s => .string s
  | .datetime t => .string t.text
  | .array items => .array (itemsToJson items)
  | .dict entries => .object (entriesToJson entries)

def itemsToJson : List Value → List Json
  | [] => []
  | x :: xs => x.toJson :: itemsToJson xs

def entriesToJson : List (String × Value) → List (String × Json)
  | [] => []
  | (k, x) :: rest => (k, x.toJson) :: entriesToJson rest

end

/-- The text of a value in a template. -/
def text : Value → String
  | .integer n => toString n.toInt
  | .number x => Decimal.Style.value.text x
  | .string s => s
  | .boolean b => if b then "true" else "false"
  | .color c => c.text
  | .url s => s
  | .datetime t => t.text
  | v => v.toJson.compact

theorem type_of_conform? {v w : Value} {t : ValueType} (h : v.conform? t = some w) : w.type = t := by
  unfold conform? at h
  split at h
  · cases h; rfl
  · split at h
    · cases h; assumption
    · cases h

end Value

end CardExpr
