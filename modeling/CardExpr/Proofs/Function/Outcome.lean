import CardExpr.Builtin.Registry

/-!
How operators and lookups end: with a value of a known type, or with a failure of their own, which names no
variable, no custom function and no limit.
-/

namespace CardExpr

variable {α β : Type}

/-- The failures of built-in functions that were given what they ask for. -/
def EvalError.isProper : EvalError → Bool
  | .integerOverflow _ => true
  | .divisionByZero => true
  | .indexOutOfBounds _ _ => true
  | .missingKey _ => true
  | .notIndexable _ _ => true
  | .returnType _ _ _ => true
  | .function _ (.missingArgument _) => false
  | .function _ _ => true
  | _ => false

/-- The failures that are neither about a variable nor about the depth, and come from no custom function. -/
def EvalError.isLocal : EvalError → Bool
  | .undefinedVariable _ => false
  | .depthLimitExceeded _ => false
  | .customFunction _ _ => false
  | _ => true

theorem EvalError.isLocal_of_isProper {c : EvalError} (proper : c.isProper = true) : c.isLocal = true := by
  cases c <;> first | rfl | cases proper

/-- A value, or a failure that does not lie in what the function was given. -/
def Proper (x : Except EvalError α) : Prop := ∀ c, x = .error c → c.isProper = true

namespace Proper

@[grind ←] theorem ok (a : α) : Proper (.ok a : Except EvalError α) := fun _ h => nomatch h

@[grind ←] theorem pure (a : α) : Proper (pure a : Except EvalError α) := ok a

@[grind ←] theorem error {c : EvalError} (proper : c.isProper = true) :
    Proper (.error c : Except EvalError α) := by
  intro d same
  cases same
  exact proper

@[grind ←] theorem bind {x : Except EvalError α} {next : α → Except EvalError β} (first : Proper x)
    (rest : ∀ a, Proper (next a)) : Proper (x >>= next) := by
  cases x with
  | error c => exact error (first c rfl)
  | ok a => exact rest a

end Proper

/-- A value of the type, or a failure that does not lie in what the function was given. -/
structure Returns (t : ValueType) (x : Except EvalError Value) : Prop where
  type : ∀ v, x = .ok v → v.type = t
  proper : Proper x

namespace Returns

variable {t : ValueType}

@[grind ←] theorem ok {v : Value} (typed : v.type = t) : Returns t (.ok v) where
  type w same := by
    cases same
    exact typed
  proper := .ok v

@[grind ←] theorem pure {v : Value} (typed : v.type = t) : Returns t (pure v) := ok typed

@[grind ←] theorem error {c : EvalError} (proper : c.isProper = true) : Returns t (.error c) where
  type _ same := nomatch same
  proper := .error proper

@[grind ←] theorem bind {x : Except EvalError α} {next : α → Except EvalError Value} (first : Proper x)
    (rest : ∀ a, Returns t (next a)) : Returns t (x >>= next) := by
  cases x with
  | error c => exact error (first c rfl)
  | ok a => exact rest a

theorem foldlM {next : Value → α → Except EvalError Value} {items : List α}
    (step : ∀ v, v.type = t → ∀ a ∈ items, Returns t (next v a)) {v : Value} (typed : v.type = t) :
    Returns t (items.foldlM next v) := by
  induction items generalizing v with
  | nil => exact ok typed
  | cons a rest ih =>
      have first := step v typed a List.mem_cons_self
      rw [List.foldlM_cons]
      cases outcome : next v a with
      | error c => exact error (first.proper c outcome)
      | ok w =>
          refine ih (fun v typed b later => step v typed b (List.mem_cons_of_mem a later)) ?_
          exact first.type w outcome

end Returns

/-- A value, or a failure that is neither about a variable nor about the depth. -/
def Local (x : Except EvalError α) : Prop := ∀ c, x = .error c → c.isLocal = true

namespace Local

theorem ok (a : α) : Local (.ok a : Except EvalError α) := fun _ h => nomatch h

theorem error {c : EvalError} (here : c.isLocal = true) : Local (.error c : Except EvalError α) := by
  intro d same
  cases same
  exact here

theorem of_proper {x : Except EvalError α} (proper : Proper x) : Local x :=
  fun c failed => c.isLocal_of_isProper (proper c failed)

end Local

@[grind ←] theorem returns_checkedInt (operator : String) (n : Int) :
    Returns .integer (checkedInt operator n) := by
  grind [checkedInt, Value.type, EvalError.isProper]

@[grind ←] theorem returns_divideInt (operator : String) (a b : Int64) :
    Returns .integer (divideInt operator a b) := by
  grind [divideInt, EvalError.isProper]

@[grind ←] theorem returns_moduloInt (operator : String) (a b : Int64) :
    Returns .integer (moduloInt operator a b) := by
  grind [moduloInt, EvalError.isProper]

@[grind ←] theorem returns_divideFloat (a b : Float) : Returns .number (divideFloat a b) := by
  grind [divideFloat, Value.type, EvalError.isProper]

@[grind ←] theorem returns_moduloFloat (a b : Float) : Returns .number (moduloFloat a b) := by
  grind [moduloFloat, Value.type, EvalError.isProper]

@[grind ←] theorem proper_elementAt (items : List Value) (index : Int64) :
    Proper (elementAt items index) := by
  grind [elementAt, EvalError.isProper]

theorem local_arithmetic {invalid : EvalError} {onInts : Int64 → Int64 → Except EvalError Value}
    {onFloats : Float → Float → Except EvalError Value} (left right : Value) (here : invalid.isLocal = true)
    (ints : ∀ a b, Proper (onInts a b)) (floats : ∀ a b, Proper (onFloats a b)) :
    Local (arithmetic invalid onInts onFloats left right) := by
  unfold arithmetic
  split
  · exact .of_proper (ints _ _)
  · split
    · exact .of_proper (floats _ _)
    · exact .error here

theorem local_applyBinary (op : BinaryOp) (left right : Value) : Local (applyBinary op left right) := by
  have invalid : Local
      (.error (.invalidOperands op.symbol left.type right.type) : Except EvalError Value) := .error rfl
  have checked (operator : String) (n : Int) : Proper (checkedInt operator n) :=
    (returns_checkedInt operator n).proper
  unfold applyBinary
  split
  all_goals try exact invalid
  · split
    · exact .ok _
    · exact local_arithmetic _ _ rfl (fun _ _ => checked _ _) fun _ _ => .ok _
  · exact local_arithmetic _ _ rfl (fun _ _ => checked _ _) fun _ _ => .ok _
  · exact local_arithmetic _ _ rfl (fun _ _ => checked _ _) fun _ _ => .ok _
  · split
    · exact .of_proper (returns_divideFloat _ _).proper
    · exact invalid
  · exact local_arithmetic _ _ rfl (fun _ _ => (returns_moduloInt _ _ _).proper)
      fun _ _ => (returns_moduloFloat _ _).proper
  all_goals
    split
    · exact .ok _
    · exact invalid

theorem local_applyUnary (op : UnaryOp) (operand : Value) : Local (applyUnary op operand) := by
  unfold applyUnary
  split
  all_goals first | exact .ok _ | exact .of_proper (returns_checkedInt _ _).proper | exact .error rfl

theorem local_applyIndex (target key : Value) : Local (applyIndex target key) := by
  unfold applyIndex
  split
  · exact .of_proper (proper_elementAt _ _)
  · split
    · exact .ok _
    · exact .error rfl
  · exact .error rfl

namespace Builtin

theorem type_of_readAs {v w : Value} {t : ValueType} (read : readAs v t = some w) : w.type = t := by
  unfold readAs at read
  split at read
  next s =>
    obtain ⟨c, -, rfl⟩ := Option.map_eq_some_iff.mp read
    rfl
  next s =>
    cases read
    rfl
  next => exact Value.type_of_conform? read

theorem type_of_bind_readAs {found : Option Value} {v : Value} {t : ValueType}
    (read : found.bind (readAs · t) = some v) : v.type = t := by
  obtain ⟨w, -, known⟩ := Option.bind_eq_some_iff.mp read
  exact type_of_readAs known

@[grind ←] theorem returns_typed (t : ValueType) (args : Args) (v : Value) : Returns t (typed t args v) := by
  unfold typed
  cases read : readAs v t with
  | some w => exact .ok (type_of_readAs read)
  | none => exact .error rfl

@[grind ←] theorem returns_fallback (t : ValueType) (v : Value) : Returns t (fallback t v) := by
  unfold fallback
  cases read : readAs v t with
  | some w => exact .ok (type_of_readAs read)
  | none => exact .error rfl

@[grind ←] theorem proper_followPath (root : Value) (path : List Value) : Proper (followPath root path) := by
  induction path generalizing root with
  | nil => exact .ok root
  | cons key rest ih =>
      cases key with
      | string name =>
          cases root with
          | dict entries =>
              unfold followPath
              dsimp only
              cases Table.find? entries name with
              | some v => exact ih v
              | none => exact .error rfl
          | _ => exact .error rfl
      | _ => exact .error rfl

end Builtin

end CardExpr
