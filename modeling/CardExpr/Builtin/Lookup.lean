import CardExpr.Builtin.Entry
import CardExpr.Evaluation.Operators

/-! Looking into arrays and dicts, and reading variables by computed names. -/

namespace CardExpr.Builtin

/-- Follows keys through nested dicts. -/
def followPath : (root : Value) → List Value → Except EvalError Value
  | current, [] => .ok current
  | current, .string key :: rest =>
    match current with
    | .dict entries =>
      match Table.find? entries key with
      | some v => followPath v rest
      | none => .error (.missingKey key)
    | other => .error (.notIndexable other.type .string)
  | current, key :: _ => .error (.notIndexable current.type key.type)

def typed (t : ValueType) (args : Args) (v : Value) : Except EvalError Value :=
  match readAs v t with
  | some w => .ok w
  | none => args.fail (.wrongElement t v.type)

def fallback (t : ValueType) (v : Value) : Except EvalError Value :=
  match readAs v t with
  | some w => .ok w
  | none => .error (.returnType ("fallback of get" ++ elementName t) t v.type)

def getArray (t : ValueType) (args : Args) : Except EvalError Value := do
  let items ← args.array 0
  let index ← args.integer 1
  let item ← elementAt items index
  typed t args item

def getArrayOpt (t : ValueType) (args : Args) : Except EvalError Value := do
  let items ← args.array 0
  let index ← args.integer 1
  match (elementAt items index).toOption.bind (readAs · t) with
  | some v => pure v
  | none => fallback t (← args.get 2)

def getDict (t : ValueType) (args : Args) : Except EvalError Value := do
  let root ← args.get 0
  let v ← followPath root (args.rest 1)
  typed t args v

def getDictOpt (t : ValueType) (args : Args) : Except EvalError Value := do
  let root ← args.get 1
  match (followPath root (args.rest 2)).toOption.bind (readAs · t) with
  | some v => pure v
  | none => fallback t (← args.get 0)

def typedLookups (t : ValueType) (name : String) : List Entry :=
  let other := fallbackArg t
  [function ("getArray" ++ name) [array, integer] t (.pure (getArray t)),
    function ("getArrayOpt" ++ name) [array, integer, other] t (.pure (getArrayOpt t)),
    function ("getDict" ++ name) [dict, string] t (.pure (getDict t)) (some string),
    function ("getDictOpt" ++ name) [other, dict, string] t (.pure (getDictOpt t)) (some string),
    method ("get" ++ name) [array, integer] t (.pure (getArray t)),
    method ("get" ++ name) [dict, string] t (.pure (getDict t)),
    method ("getOpt" ++ name) [array, integer, other] t (.pure (getArrayOpt t))]

def arrayLength (args : Args) : Except EvalError Value := do
  let items ← args.array 0
  pure (.integer (Int64.ofNat items.length))

def isEmpty (args : Args) : Except EvalError Value := do
  match ← args.get 0 with
  | .dict entries => pure (.boolean entries.isEmpty)
  | _ => do
    let items ← args.array 0
    pure (.boolean items.isEmpty)

def containsKey (args : Args) : Except EvalError Value := do
  let entries ← args.dict 0
  let key ← args.string 1
  pure (.boolean (entries.contains key))

def dictKeys (args : Args) : Except EvalError Value := do
  let entries ← args.dict 0
  pure (.array (entries.keys.map .string))

def dictValues (args : Args) : Except EvalError Value := do
  let entries ← args.dict 0
  pure (.array (entries.map (·.2)))

def lookups : List Entry :=
  elementTypes.flatMap (fun (t, name) => typedLookups t name) ++
    [function "len" [array] .integer (.pure arrayLength),
      method "len" [array] .integer (.pure arrayLength),
      function "isEmpty" [array] .boolean (.pure isEmpty),
      method "isEmpty" [array] .boolean (.pure isEmpty),
      function "isEmpty" [dict] .boolean (.pure isEmpty),
      method "isEmpty" [dict] .boolean (.pure isEmpty),
      function "containsKey" [dict, string] .boolean (.pure containsKey),
      method "containsKey" [dict, string] .boolean (.pure containsKey),
      function "getDictKeys" [dict] .array (.pure dictKeys),
      function "getDictValues" [dict] .array (.pure dictValues),
      method "getKeys" [dict] .array (.pure dictKeys),
      method "getValues" [dict] .array (.pure dictValues)]

/-- The variable of a computed name if it can be read as the type, else the fallback and a warning. -/
def getValue (t : ValueType) : NativeBody := fun site args =>
  match args.string 0 with
  | .error e => .done (.error e)
  | .ok name => .read name fun found =>
    match found.bind (readAs · t) with
    | some v => .done (.ok v)
    | none =>
      match args.get 1 with
      | .error e => .done (.error e)
      | .ok other =>
        match readAs other t with
        | none => .done (args.fail (.wrongFallback t other.type))
        | some v =>
          if site.config.warnOnFallback then
            let reason := match found with
              | some w => "has type " ++ w.type.name
              | none => "is not defined"
            .warn ("variable '" ++ name ++ "' " ++ reason ++ ", using fallback " ++ v.text)
              (.done (.ok v))
          else .done (.ok v)

def getters : List Entry :=
  elementTypes.map fun (t, name) =>
    function ("get" ++ name ++ "Value") [string, fallbackArg t] t (getValue t)

end CardExpr.Builtin
