import CardExpr.Value.Basic

/-! Reading values from JSON. -/

namespace CardExpr

/-- A JSON value that is no value of the type asked for. -/
structure ConversionError where
  expected : ValueType
  found : String
  deriving DecidableEq, Repr

def ConversionError.message (e : ConversionError) : String :=
  "cannot read " ++ e.found ++ " as " ++ e.expected.name

namespace Value

def mismatch (expected : ValueType) (json : Json) : ConversionError := ⟨expected, json.compact⟩

def ofNumber : JsonNumber → Value
  | .int n =>
    match (JsonNumber.int n).int64? with
    | some i => .integer i
    | none => .number (JsonNumber.int n).toFloat
  | .float x => .number x

mutual

/-- The value that a JSON value stands for of itself. -/
def ofJson : Json → Except ConversionError Value
  | .null => .error ⟨.dict, "null"⟩
  | .bool b => .ok (.boolean b)
  | .number n => .ok (ofNumber n)
  | .string s => .ok (.string s)
  | .array items => (itemsOfJson items).map .array
  | .object members => (entriesOfJson members).map .dict

def itemsOfJson : List Json → Except ConversionError (List Value)
  | [] => .ok []
  | x :: xs => do
    let v ← ofJson x
    let vs ← itemsOfJson xs
    pure (v :: vs)

def entriesOfJson : List (String × Json) → Except ConversionError (List (String × Value))
  | [] => .ok []
  | (k, x) :: rest => do
    let v ← ofJson x
    let vs ← entriesOfJson rest
    pure ((k, v) :: vs)

end

/-- The value of a given type. Zero and one are booleans too; colors and datetimes are read from their
texts. -/
def ofJsonAs (json : Json) (type : ValueType) : Except ConversionError Value :=
  let orMismatch (v : Option Value) : Except ConversionError Value :=
    match v with
    | some v => .ok v
    | none => .error (mismatch type json)
  match type, json with
  | .integer, .number n => orMismatch (n.int64?.map .integer)
  | .number, .number n => .ok (.number n.toFloat)
  | .string, .string s => .ok (.string s)
  | .boolean, .bool b => .ok (.boolean b)
  | .boolean, .number n =>
    orMismatch (n.int64?.bind fun i =>
      if i = 0 then some (.boolean false) else if i = 1 then some (.boolean true) else none)
  | .color, .string s => orMismatch ((Color.parse s).toOption.map .color)
  | .url, .string s => .ok (.url s)
  | .datetime, .string s => orMismatch ((Calendar.readDateTime s).map .datetime)
  | .array, .array items => (itemsOfJson items).map .array
  | .dict, .object members => (entriesOfJson members).map .dict
  | _, _ => .error (mismatch type json)

end Value

end CardExpr
