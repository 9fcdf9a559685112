import CardExpr.Proofs.Function.Checking
import CardExpr.Proofs.Function.Registration

/-!
Calls are type sound. A built-in function that is given what its signature asks for returns a value of the
type that the signature names, or it fails for a reason that lies in no argument's type or absence.
-/

namespace CardExpr

variable {α β : Type}

/-- Whether the failure lies in the types or the number of what an operation was given. -/
def EvalError.blamesArguments : EvalError → Bool
  | .argumentType _ => true
  | .invalidOperands _ _ _ => true
  | .function _ (.missingArgument _) => true
  | _ => false

theorem EvalError.blamesArguments_of_isProper {c : EvalError} (proper : c.isProper = true) :
    c.blamesArguments = false := by
  cases c with
  | function name failure => cases failure <;> first | rfl | cases proper
  | _ => first | rfl | cases proper

namespace Args

/-- There is an argument in the position, and it is of a type that the signature has there. -/
def Holds (args : Args) (index : Nat) (expected : ArgType) : Prop :=
  ∃ v, args.get index = .ok v ∧ expected.holds v.type = true

def HoldsFrom (args : Args) : Nat → List ArgType → Prop
  | _, [] => True
  | index, expected :: rest => args.Holds index expected ∧ args.HoldsFrom (index + 1) rest

variable {args : Args} {s : Signature} {index : Nat}

theorem get_eq_ok {v : Value} (found : args.values[index]? = some v) : args.get index = .ok v := by
  unfold get
  rw [found]

theorem Fit.least_le (fit : args.Fit s) : s.args.length ≤ args.values.length := by
  have admitted := fit.admitted
  unfold Signature.arity at admitted
  split at admitted
  · exact of_decide_eq_true admitted
  · exact Nat.le_of_eq (beq_iff_eq.mp admitted).symm

theorem Fit.holds (fit : args.Fit s) {expected : ArgType} (position : s.args[index]? = some expected) :
    args.Holds index expected := by
  have within : index < args.values.length :=
    Nat.lt_of_lt_of_le (List.getElem?_eq_some_iff.mp position).1 fit.least_le
  have found := List.getElem?_eq_getElem within
  obtain ⟨known, same, holds⟩ := fit.typed index _ found
  rw [Nat.zero_add, Signature.argType?, position] at same
  cases same
  exact ⟨_, get_eq_ok found, holds⟩

theorem Fit.holdsFrom (fit : args.Fit s) : args.HoldsFrom 0 s.args := by
  suffices all : ∀ (types : List ArgType) (index : Nat), s.args.drop index = types →
      args.HoldsFrom index types from all s.args 0 rfl
  intro types
  induction types with
  | nil => exact fun _ _ => trivial
  | cons expected rest ih =>
      intro index split
      refine ⟨fit.holds ?_, ih (index + 1) ?_⟩
      · rw [← List.head?_drop, split]
        rfl
      · rw [← List.tail_drop, split]
        rfl

theorem Fit.rest (fit : args.Fit s) {expected : ArgType} (tail : s.tail = some expected) :
    ∀ v ∈ args.rest s.args.length, expected.holds v.type = true := by
  intro v member
  obtain ⟨i, found⟩ := List.mem_iff_getElem?.mp member
  rw [Args.rest, List.getElem?_drop] at found
  obtain ⟨known, same, holds⟩ := fit.typed _ v found
  have beyond : s.args[s.args.length + i]? = none := List.getElem?_eq_none (Nat.le_add_right _ _)
  rw [Nat.zero_add, Signature.argType?, beyond, tail] at same
  cases same
  exact holds

@[grind →] theorem integer_of_holds (holds : args.Holds index Builtin.integer) :
    ∃ n, args.integer index = .ok n := by
  obtain ⟨v, read, typed⟩ := holds
  cases v with
  | integer n => exact ⟨n, by rw [integer, read]; rfl⟩
  | _ => cases typed

@[grind →] theorem number_of_holds (holds : args.Holds index Builtin.number) :
    ∃ x, args.number index = .ok x := by
  obtain ⟨v, read, typed⟩ := holds
  cases v with
  | number x => exact ⟨x, by rw [number, read]; rfl⟩
  | _ => cases typed

@[grind →] theorem string_of_holds (holds : args.Holds index Builtin.string) :
    ∃ s, args.string index = .ok s := by
  obtain ⟨v, read, typed⟩ := holds
  cases v with
  | string s => exact ⟨s, by rw [string, read]; rfl⟩
  | _ => cases typed

@[grind →] theorem datetime_of_holds (holds : args.Holds index Builtin.datetime) :
    ∃ t, args.datetime index = .ok t := by
  obtain ⟨v, read, typed⟩ := holds
  cases v with
  | datetime t => exact ⟨t, by rw [datetime, read]; rfl⟩
  | _ => cases typed

@[grind →] theorem array_of_holds (holds : args.Holds index Builtin.array) :
    ∃ items, args.array index = .ok items := by
  obtain ⟨v, read, typed⟩ := holds
  cases v with
  | array items => exact ⟨items, by rw [array, read]; rfl⟩
  | _ => cases typed

@[grind →] theorem dict_of_holds (holds : args.Holds index Builtin.dict) :
    ∃ entries, args.dict index = .ok entries := by
  obtain ⟨v, read, typed⟩ := holds
  cases v with
  | dict entries => exact ⟨entries, by rw [dict, read]; rfl⟩
  | _ => cases typed

@[grind →] theorem proper_get {expected : ArgType} (holds : args.Holds index expected) :
    Proper (args.get index) := by
  obtain ⟨v, read, -⟩ := holds
  rw [read]
  exact .ok v

@[grind ←] theorem proper_fail {failure : Failure}
    (proper : (EvalError.function args.callee failure).isProper = true) :
    Proper (args.fail failure : Except EvalError α) := .error proper

@[grind ←] theorem returns_fail {t : ValueType} {failure : Failure}
    (proper : (EvalError.function args.callee failure).isProper = true) :
    Returns t (args.fail failure) := .error proper

@[grind →] theorem proper_color (holds : args.Holds index Builtin.color) : Proper (args.color index) := by
  obtain ⟨v, read, typed⟩ := holds
  rw [color, read]
  cases v with
  | color c => exact .ok c
  | string s =>
      dsimp only [Bind.bind, Except.bind]
      split
      · exact .ok _
      · exact .error rfl
  | _ => cases typed

end Args

def Action.Returns (t : ValueType) : Action → Prop
  | .done result => CardExpr.Returns t result
  | .read _ next => ∀ found, (next found).Returns t
  | .warn _ next => next.Returns t

/-- The body keeps what the signature promises, and reads no more of its arguments than the signature
checks. -/
def Function.Sound (f : Function) : Prop :=
  ∃ body, f.body = .native body ∧ ∀ site args, args.Fit f.signature →
    (body site args).Returns f.signature.returns

theorem answer_returns {t : ValueType} (s : Setting) (callee : String) (action : Action)
    (returns : action.Returns t) : Returns t (answer s callee action).result := by
  induction action with
  | done result => exact returns
  | read name next ih => exact ih _ (returns _)
  | warn message next ih => exact ih returns

namespace Builtin

/-- A function of nothing but its arguments is sound if it returns what its signature says for arguments of
the types that the signature lists. -/
theorem sound_pure {kind : CallKind} {name : String} {types : List ArgType} {tail : Option ArgType}
    {t : ValueType} {f : Args → Except EvalError Value}
    (returns : ∀ args : Args, args.HoldsFrom 0 types →
      (∀ expected, tail = some expected → ∀ v ∈ args.rest types.length, expected.holds v.type = true) →
      Returns t (f args)) :
    (Entry.mk kind ⟨name, ⟨types, tail, t⟩, .native (.pure f)⟩).function.Sound := by
  refine ⟨_, rfl, fun site args fit => ?_⟩
  exact returns args fit.holdsFrom fun expected => fit.rest

@[grind =] theorem type_positionOf (found : Option Nat) : (positionOf found).type = .integer := by
  cases found <;> rfl

theorem sound_padWith (name : String) (join : List Char → List Char → List Char) :
    (function name [.oneOf [.string, .integer], integer, string] .string (padWith join)).function.Sound := by
  refine ⟨_, rfl, fun site args fit => ?_⟩
  obtain ⟨value, width, pad, -⟩ := fit.holdsFrom
  show Action.Returns .string (padWith join site args)
  unfold padWith
  extract_lets parts
  have proper : Proper parts := by grind
  cases read : parts with
  | error c => exact Returns.error (proper c read)
  | ok parts =>
      dsimp only
      split
      · exact Returns.ok rfl
      · split <;> exact Returns.ok rfl

theorem strings_sound : ∀ e ∈ strings, e.function.Sound := by
  simp only [strings, List.forall_mem_cons, List.not_mem_nil, false_implies, implies_true, and_true]
  and_intros
  all_goals first
    | exact sound_padWith _ _
    | refine sound_pure fun args holds _ => ?_
      simp only [Args.HoldsFrom] at holds
      grind [onString, onStrings, onChars, lengthOf, containsText, concat, substring, replaceAll, decodeUri,
        testRegex, Value.type, EvalError.isProper]

/-- Numeric arguments of one type: integers are combined by the checked operation, and numbers by the one
on numbers. -/
theorem returns_arithmetic {t : ValueType} {invalid : EvalError}
    {onInts : Int64 → Int64 → Except EvalError Value} {onFloats : Float → Float → Except EvalError Value}
    (numeric : t = .integer ∨ t = .number) (ints : ∀ a b, Returns .integer (onInts a b))
    (floats : ∀ a b, Returns .number (onFloats a b)) {left right : Value} (first : left.type = t)
    (second : right.type = t) : Returns t (arithmetic invalid onInts onFloats left right) := by
  rcases numeric with rfl | rfl
  · cases left <;> cases first
    cases right <;> cases second
    exact ints _ _
  · cases left <;> cases first
    cases right <;> cases second
    exact floats _ _

theorem returns_fold {t : ValueType} (operator : String) (onInts : Int → Int → Int)
    (onFloats : Float → Float → Float) {args : Args} (numeric : t = .integer ∨ t = .number)
    (holds : args.Holds 0 (.of t)) (rest : ∀ v ∈ args.rest 1, v.type = t) :
    Returns t (fold operator onInts onFloats args) := by
  obtain ⟨first, read, typed⟩ := holds
  unfold fold
  rw [read]
  refine Returns.foldlM (fun acc typed v member => ?_) (beq_iff_eq.mp typed).symm
  exact returns_arithmetic numeric (fun _ _ => returns_checkedInt _ _) (fun _ _ => .ok rfl) typed
    (rest v member)

theorem returns_combine {t : ValueType} {onInts : Int64 → Int64 → Except EvalError Value}
    {onFloats : Float → Float → Except EvalError Value} {args : Args} (numeric : t = .integer ∨ t = .number)
    (ints : ∀ a b, Returns .integer (onInts a b)) (floats : ∀ a b, Returns .number (onFloats a b))
    (left : args.Holds 0 (.of t)) (right : args.Holds 1 (.of t)) :
    Returns t (combine onInts onFloats args) := by
  obtain ⟨v, first, leftTyped⟩ := left
  obtain ⟨w, second, rightTyped⟩ := right
  unfold combine Args.number
  rw [first, second]
  rcases numeric with rfl | rfl
  · cases v <;> cases leftTyped
    cases w <;> cases rightTyped
    exact ints _ _
  · cases v <;> cases leftTyped
    cases w <;> cases rightTyped
    exact floats _ _

theorem returns_abs {t : ValueType} {args : Args} (numeric : t = .integer ∨ t = .number)
    (holds : args.Holds 0 (.of t)) : Returns t (abs args) := by
  obtain ⟨v, read, typed⟩ := holds
  unfold abs Args.number
  rw [read]
  rcases numeric with rfl | rfl
  · cases v <;> cases typed
    exact returns_checkedInt _ _
  · cases v <;> cases typed
    exact .ok rfl

theorem returns_signum {t : ValueType} {args : Args} (numeric : t = .integer ∨ t = .number)
    (holds : args.Holds 0 (.of t)) : Returns t (signum args) := by
  obtain ⟨v, read, typed⟩ := holds
  unfold signum Args.number
  rw [read]
  rcases numeric with rfl | rfl
  · cases v <;> cases typed
    exact .ok rfl
  · cases v <;> cases typed
    exact .ok rfl

theorem math_sound : ∀ e ∈ math, e.function.Sound := by
  simp only [math, unaryMath, binaryMath, variadicMath, List.forall_mem_append, List.forall_mem_cons,
    List.not_mem_nil, false_implies, implies_true, and_true]
  and_intros
  all_goals
    refine sound_pure fun args holds rest => ?_
    simp only [Args.HoldsFrom, integer, number] at holds
  all_goals first
    | refine returns_combine ?_ ?_ ?_ holds.1 holds.2.1 <;> grind
    | refine returns_fold _ _ _ ?_ holds.1 fun v member => ?_
      · first | exact .inl rfl | exact .inr rfl
      · exact (beq_iff_eq.mp (rest _ rfl v member)).symm
    | refine returns_abs ?_ holds.1
      grind
    | refine returns_signum ?_ holds.1
      grind
    | grind [onNumber, copySign, number, Value.type]

theorem conversions_sound : ∀ e ∈ conversions, e.function.Sound := by
  simp only [conversions, List.forall_mem_cons, List.not_mem_nil, false_implies, implies_true, and_true]
  and_intros
  all_goals
    refine sound_pure fun args holds _ => ?_
    simp only [Args.HoldsFrom] at holds
    grind [toText, toInteger, toNumber, toBoolean, toColor, toUrl, Value.type, EvalError.isProper]

@[grind →] theorem proper_component {args : Args} {index : Nat} (holds : args.Holds index number) :
    Proper (component args index) := by
  grind [component, EvalError.isProper]

theorem colors_sound : ∀ e ∈ colors, e.function.Sound := by
  simp only [colors, channels, List.flatMap_cons, List.flatMap_nil, List.forall_mem_append,
    List.forall_mem_cons, List.not_mem_nil, false_implies, implies_true, and_true]
  and_intros
  all_goals
    refine sound_pure fun args holds _ => ?_
    simp only [Args.HoldsFrom] at holds
    grind [argb, rgb, getChannel, setChannel, Value.type]

theorem sound_nowLocal :
    (function "nowLocal" [] .datetime fun site _ => .done (.ok (.datetime site.now))).function.Sound := by
  exact ⟨_, rfl, fun site args _ => Returns.ok rfl⟩

theorem instants_sound : ∀ e ∈ instants, e.function.Sound := by
  simp only [instants, List.forall_mem_cons, List.not_mem_nil, false_implies, implies_true, and_true]
  and_intros
  all_goals first
    | exact sound_nowLocal
    | refine sound_pure fun args holds _ => ?_
      simp only [Args.HoldsFrom] at holds
      grind [parseUnixTime, addMillis, parseDateTime, formatDate, setYear, setField, getField, Value.type,
        EvalError.isProper]

theorem returns_readOr {t : ValueType} (found : Option Value) {rest : Except EvalError Value}
    (otherwise : Returns t rest) :
    Returns t (match found.bind (readAs · t) with
      | some v => pure v
      | none => rest) := by
  cases read : found.bind (readAs · t) with
  | some v => exact .ok (type_of_bind_readAs read)
  | none => exact otherwise

theorem returns_getArrayOpt {t : ValueType} {other : ArgType} {args : Args} (items : args.Holds 0 array)
    (index : args.Holds 1 integer) (fallback : args.Holds 2 other) : Returns t (getArrayOpt t args) := by
  obtain ⟨items, listed⟩ := args.array_of_holds items
  obtain ⟨index, asked⟩ := args.integer_of_holds index
  unfold getArrayOpt
  rw [listed, asked]
  exact returns_readOr _ (.bind (args.proper_get fallback) fun v => returns_fallback t v)

theorem returns_getDictOpt {t : ValueType} {other : ArgType} {args : Args} (fallback : args.Holds 0 other)
    (root : args.Holds 1 dict) : Returns t (getDictOpt t args) := by
  refine .bind (args.proper_get root) fun root => ?_
  exact returns_readOr _ (.bind (args.proper_get fallback) fun v => returns_fallback t v)

theorem returns_isEmpty {args : Args} (holds : args.Holds 0 array ∨ args.Holds 0 dict) :
    Returns .boolean (isEmpty args) := by
  unfold isEmpty Args.array
  rcases holds with ⟨v, read, typed⟩ | ⟨v, read, typed⟩
  · rw [read]
    cases v <;> cases typed
    exact .ok rfl
  · rw [read]
    cases v <;> cases typed
    exact .ok rfl

theorem lookups_sound : ∀ e ∈ lookups, e.function.Sound := by
  simp only [lookups, List.forall_mem_append, List.forall_mem_cons, List.mem_flatMap, List.not_mem_nil,
    false_implies, implies_true, and_true]
  refine ⟨?_, ?_⟩
  · rintro e ⟨⟨t, name⟩, -, member⟩
    revert e
    simp only [typedLookups, List.forall_mem_cons, List.not_mem_nil, false_implies, implies_true, and_true]
    and_intros
    all_goals
      refine sound_pure fun args holds _ => ?_
      simp only [Args.HoldsFrom] at holds
      grind [getArray, getDict, returns_getArrayOpt, returns_getDictOpt]
  · and_intros
    all_goals
      refine sound_pure fun args holds _ => ?_
      simp only [Args.HoldsFrom] at holds
      grind [arrayLength, returns_isEmpty, containsKey, dictKeys, dictValues, Value.type]

theorem sound_getValue (t : ValueType) (name : String) :
    (function name [string, fallbackArg t] t (getValue t)).function.Sound := by
  refine ⟨_, rfl, fun site args fit => ?_⟩
  obtain ⟨name, fallback, -⟩ := fit.holdsFrom
  obtain ⟨key, named⟩ := args.string_of_holds name
  obtain ⟨other, given, -⟩ := fallback
  show Action.Returns t (getValue t site args)
  unfold getValue
  rw [named, given]
  intro found
  dsimp only
  cases read : found.bind (readAs · t) with
  | some v => exact Returns.ok (type_of_bind_readAs read)
  | none =>
      dsimp only
      cases read : readAs other t with
      | none => exact Returns.error rfl
      | some v => cases site.config.warnOnFallback <;> exact Returns.ok (type_of_readAs read)

theorem getters_sound : ∀ e ∈ getters, e.function.Sound := by
  intro e member
  obtain ⟨⟨t, name⟩, -, rfl⟩ := List.mem_map.mp member
  exact sound_getValue t _

theorem entries_sound : ∀ e ∈ entries, e.function.Sound := by
  simp only [entries, List.forall_mem_append]
  exact ⟨⟨⟨⟨⟨⟨strings_sound, math_sound⟩, conversions_sound⟩, colors_sound⟩, instants_sound⟩,
    lookups_sound⟩, getters_sound⟩

end Builtin

/-- A body comes to a value of the type that the function declares, or the call fails. -/
theorem type_of_callCustom {below : Below} {s : Setting} {g : CustomFunction} {args : Args} {v : Value}
    (ok : (callCustom below s g args).result = .ok v) : v.type = g.returnType := by
  unfold callCustom at ok
  cases body : ((evalBody below s g args).mapError (EvalError.inCustomFunction g.name)).result with
  | error c =>
      rw [Run.bind_of_error body] at ok
      cases ok
  | ok w =>
      rw [Run.bind_of_ok body] at ok
      change (expectReturned g w).result = .ok v at ok
      unfold expectReturned at ok
      cases returned : w.conform? g.returnType with
      | none =>
          rw [returned] at ok
          cases ok
      | some u =>
          rw [returned] at ok
          cases ok
          exact Value.type_of_conform? returned

/-- Calls are type sound. Whatever the registry, a call that selects a built-in function or a declared one
returns a value of the type that the signature of this function names, if it returns. And if it selects
a built-in function it never fails for the type of an argument or an operand, nor for want of an
argument: what the signature checks is all that the body reads from its arguments. -/
theorem calls_typeSound (below : Below) (s : Setting) (kind : CallKind) (name : String)
    (values : List Value) (f : Function) (selected : s.functions.select kind name values = .ok f) :
    (f.IsBuiltin kind →
      (∀ v, (callFunction below s kind name values).result = .ok v → v.type = f.signature.returns) ∧
        ∀ c, (callFunction below s kind name values).result = .error c → c.blamesArguments = false) ∧
    ∀ d g, CustomFunction.compile d = .ok g → f = d.compiled g →
      ∀ v, (callFunction below s kind name values).result = .ok v → v.type = f.signature.returns := by
  obtain ⟨args, checked, fit⟩ := Registry.checkArgs_of_select selected
  rw [callFunction_checked selected checked]
  refine ⟨fun builtin => ?_, fun d g _ compiled v ok => ?_⟩
  · obtain ⟨body, native, sound⟩ : f.Sound := Builtin.entries_sound ⟨kind, f⟩ builtin
    rw [native]
    have returns := answer_returns s f.name _ (sound s.callSite args fit)
    refine ⟨returns.type, fun c failed => ?_⟩
    exact EvalError.blamesArguments_of_isProper (returns.proper c failed)
  · subst compiled
    exact type_of_callCustom ok

/-- A lookup of a number finds an integer and widens it. Behind the end of the array it fails for the index,
and the call of a declared function returns what is declared. -/
theorem calls_typeSound_of_lookup :
    ∃ (s : Setting) (f : Function) (d : FunctionDeclaration) (g : CustomFunction) (below : Below),
      f.IsBuiltin .function ∧ f.signature.returns = .number ∧
        s.functions.select .function f.name [.array [.integer 3], .integer 0] = .ok f ∧
        s.functions.select .function f.name [.array [.integer 3], .integer 1] = .ok f ∧
        (∀ v, (callFunction below s .function f.name [.array [.integer 3], .integer 0]).result = .ok v →
          v.type = .number) ∧
        (callFunction below s .function f.name [.array [.integer 3], .integer 0]).result =
          .ok (.number (3 : Int64).toFloat) ∧
        (callFunction below s .function f.name [.array [.integer 3], .integer 1]).result =
          .error (.indexOutOfBounds 1 1) ∧
        (EvalError.indexOutOfBounds 1 1).blamesArguments = false ∧
        CustomFunction.compile d = .ok g ∧
        s.functions.select .function d.name [] = .ok (d.compiled g) ∧
        ∀ v, (callFunction below s .function d.name []).result = .ok v → v.type = .number := by
  let f : Function := (Builtin.function "getArrayNumber" [Builtin.array, Builtin.integer] .number
    (.pure (Builtin.getArray .number))).function
  have builtin : f.IsBuiltin .function := by
    refine List.mem_append_left _ (List.mem_append_right _ (List.mem_append_left _ ?_))
    exact List.mem_flatMap.mpr ⟨(.number, "Number"), by simp [Builtin.elementTypes], List.mem_cons_self⟩
  let d : FunctionDeclaration := ⟨"one", [], .number, "@\x7b1\x7d"⟩
  obtain ⟨g, compiles⟩ : ∃ g, CustomFunction.compile d = .ok g := exists_of_isSome (by decide +kernel)
  obtain ⟨-, -, -, -, noArguments, returned⟩ := CustomFunction.compile_eq_ok compiles
  let r : Registry := (({} : Registry).add .function f).add .function (d.compiled g)
  let s : Setting := ⟨.ofTable [], r, {}, .epoch⟩
  have first : r.select .function f.name [.array [.integer 3], .integer 0] = .ok f := rfl
  have second : r.select .function f.name [.array [.integer 3], .integer 1] = .ok f := rfl
  have third : r.select .function d.name [] = .ok (d.compiled g) := by
    obtain ⟨name, arguments, returnType, body⟩ := g
    cases noArguments
    rfl
  have found := (calls_typeSound (eval 1) s .function f.name _ f first).1 builtin
  have missed := (calls_typeSound (eval 1) s .function f.name _ f second).1 builtin
  have failed : (callFunction (eval 1) s .function f.name [.array [.integer 3], .integer 1]).result =
      .error (.indexOutOfBounds 1 1) := rfl
  refine ⟨s, f, d, g, eval 1, builtin, rfl, first, second, found.1, rfl, failed, missed.2 _ failed, compiles,
    third, fun v ok => ?_⟩
  rw [(calls_typeSound (eval 1) s .function d.name [] _ third).2 d g compiles rfl v ok]
  exact returned

end CardExpr
