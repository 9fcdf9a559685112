import CardExpr.Proofs.Function.Outcome
import CardExpr.Proofs.Function.Overloads

/-!
Built-in functions and the limit to the depth of evaluations: none of them looks at it, and none reports
it. The same holds for every registry of a card, whose other functions are declared ones.
-/

namespace CardExpr

variable {α β : Type}

/-- Whether the depth limit is the cause, be it behind custom functions. -/
def EvalError.mentionsLimit : EvalError → Bool
  | .depthLimitExceeded _ => true
  | .customFunction _ cause => cause.mentionsLimit
  | _ => false

theorem EvalError.mentionsLimit_of_isLocal {c : EvalError} (here : c.isLocal = true) :
    c.mentionsLimit = false := by
  cases c <;> first | rfl | cases here

/-- A value, or a failure of another cause than the depth limit. -/
def Plain (x : Except EvalError α) : Prop := ∀ c, x = .error c → c.mentionsLimit = false

namespace Plain

@[grind ←] theorem ok (a : α) : Plain (.ok a : Except EvalError α) := fun _ h => nomatch h

@[grind ←] theorem pure (a : α) : Plain (pure a : Except EvalError α) := ok a

@[grind ←] theorem error {c : EvalError} (other : c.mentionsLimit = false) :
    Plain (.error c : Except EvalError α) := by
  intro d same
  cases same
  exact other

theorem of_local {x : Except EvalError α} (here : Local x) : Plain x :=
  fun c failed => c.mentionsLimit_of_isLocal (here c failed)

theorem of_proper {x : Except EvalError α} (proper : Proper x) : Plain x :=
  .of_local (.of_proper proper)

theorem of_returns {t : ValueType} {x : Except EvalError Value} (returns : Returns t x) : Plain x :=
  .of_proper returns.proper

@[grind ←] theorem bind {x : Except EvalError α} {next : α → Except EvalError β} (first : Plain x)
    (rest : ∀ a, Plain (next a)) : Plain (x >>= next) := by
  cases x with
  | error c => exact error (first c rfl)
  | ok a => exact rest a

theorem foldlM {next : β → α → Except EvalError β} (step : ∀ b a, Plain (next b a)) (items : List α)
    (b : β) : Plain (items.foldlM next b) := by
  induction items generalizing b with
  | nil => exact ok b
  | cons a rest ih => exact (step b a).bind fun b' => ih b'

end Plain

namespace Args

variable (args : Args) (index : Nat)

@[grind ←] theorem plain_fail (failure : Failure) : Plain (args.fail failure : Except EvalError α) :=
  .error rfl

@[grind ←] theorem plain_mismatch (expected : ValueType) :
    Plain (args.mismatch index expected : Except EvalError α) := .error rfl

@[grind ←] theorem plain_get : Plain (args.get index) := by grind [get]

@[grind ←] theorem plain_integer : Plain (args.integer index) := by grind [integer]

@[grind ←] theorem plain_number : Plain (args.number index) := by grind [number]

@[grind ←] theorem plain_string : Plain (args.string index) := by grind [string]

@[grind ←] theorem plain_color : Plain (args.color index) := by grind [color]

@[grind ←] theorem plain_datetime : Plain (args.datetime index) := by grind [datetime]

@[grind ←] theorem plain_array : Plain (args.array index) := by grind [array]

@[grind ←] theorem plain_dict : Plain (args.dict index) := by grind [dict]

end Args

@[grind ←] theorem plain_checkedInt (operator : String) (n : Int) : Plain (checkedInt operator n) :=
  .of_returns (returns_checkedInt operator n)

@[grind ←] theorem plain_divideInt (operator : String) (a b : Int64) : Plain (divideInt operator a b) :=
  .of_returns (returns_divideInt operator a b)

@[grind ←] theorem plain_moduloInt (operator : String) (a b : Int64) : Plain (moduloInt operator a b) :=
  .of_returns (returns_moduloInt operator a b)

@[grind ←] theorem plain_divideFloat (a b : Float) : Plain (divideFloat a b) :=
  .of_returns (returns_divideFloat a b)

@[grind ←] theorem plain_moduloFloat (a b : Float) : Plain (moduloFloat a b) :=
  .of_returns (returns_moduloFloat a b)

@[grind ←] theorem plain_elementAt (items : List Value) (index : Int64) : Plain (elementAt items index) :=
  .of_proper (proper_elementAt items index)

@[grind ←] theorem plain_arithmetic {invalid : EvalError} {onInts : Int64 → Int64 → Except EvalError Value}
    {onFloats : Float → Float → Except EvalError Value} (left right : Value)
    (other : invalid.mentionsLimit = false) (ints : ∀ a b, Plain (onInts a b))
    (floats : ∀ a b, Plain (onFloats a b)) : Plain (arithmetic invalid onInts onFloats left right) := by
  unfold arithmetic
  split
  · exact ints _ _
  · split
    · exact floats _ _
    · exact .error other

/-- What a running function ends with does not come from the depth limit, whatever it is told. -/
def Action.Plain : Action → Prop
  | .done result => CardExpr.Plain result
  | .read _ next => ∀ found, (next found).Plain
  | .warn _ next => next.Plain

/-- The function acts alike under every limit to the depth and never reports it. -/
structure NativeBody.OverlooksLimit (body : NativeBody) : Prop where
  same : ∀ (site : CallSite) (args : Args) (limit : Nat),
    body { site with config := { site.config with maxDepth := limit } } args = body site args
  plain : ∀ (site : CallSite) (args : Args), (body site args).Plain

def Function.OverlooksLimit (f : Function) : Prop :=
  ∀ body, f.body = .native body → body.OverlooksLimit

/-- In a declared function there is nothing to overlook. -/
theorem Function.overlooksLimit_of_custom {f : Function} {g : CustomFunction} (custom : f.body = .custom g) :
    f.OverlooksLimit := by
  intro body native
  rw [custom] at native
  cases native

namespace Builtin

theorem overlooksLimit_native {kind : CallKind} {name : String} {signature : Signature}
    {body : NativeBody} (overlooks : body.OverlooksLimit) :
    (Entry.mk kind ⟨name, signature, .native body⟩).function.OverlooksLimit := by
  intro other same
  cases same
  exact overlooks

/-- A function of nothing but its arguments cannot look at the limit. -/
theorem overlooksLimit_pure {kind : CallKind} {name : String} {signature : Signature}
    {f : Args → Except EvalError Value} (plain : ∀ args, Plain (f args)) :
    (Entry.mk kind ⟨name, signature, .native (.pure f)⟩).function.OverlooksLimit :=
  overlooksLimit_native ⟨fun _ _ _ => rfl, fun _ args => plain args⟩

@[grind ←] theorem plain_typed (t : ValueType) (args : Args) (v : Value) : Plain (typed t args v) :=
  .of_returns (returns_typed t args v)

@[grind ←] theorem plain_fallback (t : ValueType) (v : Value) : Plain (fallback t v) :=
  .of_returns (returns_fallback t v)

@[grind ←] theorem plain_followPath (root : Value) (path : List Value) : Plain (followPath root path) :=
  .of_proper (proper_followPath root path)

@[grind ←] theorem plain_fold (operator : String) (onInts : Int → Int → Int)
    (onFloats : Float → Float → Float) (args : Args) : Plain (fold operator onInts onFloats args) := by
  refine (args.plain_get 0).bind fun first => .foldlM (fun acc v => ?_) _ _
  exact plain_arithmetic _ _ rfl (fun _ _ => plain_checkedInt _ _) fun _ _ => .ok _

@[grind ←] theorem plain_combine {onInts : Int64 → Int64 → Except EvalError Value}
    {onFloats : Float → Float → Except EvalError Value} (ints : ∀ a b, Plain (onInts a b))
    (floats : ∀ a b, Plain (onFloats a b)) (args : Args) : Plain (combine onInts onFloats args) := by
  grind [combine]

@[grind ←] theorem plain_component (args : Args) (index : Nat) : Plain (component args index) := by
  grind [component]

theorem overlooksLimit_getValue (t : ValueType) : (getValue t).OverlooksLimit where
  same _ _ _ := rfl
  plain site args := by
    unfold getValue
    cases named : args.string 0 with
    | error c => exact Plain.error (args.plain_string 0 c named)
    | ok name =>
        intro found
        dsimp only
        cases found.bind (readAs · t) with
        | some v => exact Plain.ok v
        | none =>
            cases given : args.get 1 with
            | error c => exact Plain.error (args.plain_get 1 c given)
            | ok other =>
                dsimp only
                cases readAs other t with
                | none => exact args.plain_fail _
                | some v => cases site.config.warnOnFallback <;> exact Plain.ok v

theorem overlooksLimit_padWith (join : List Char → List Char → List Char) :
    (padWith join).OverlooksLimit where
  same _ _ _ := rfl
  plain site args := by
    unfold padWith
    extract_lets parts
    have plain : Plain parts := by grind
    cases read : parts with
    | error c => exact Plain.error (plain c read)
    | ok parts =>
        dsimp only
        split
        · exact Plain.ok _
        · split <;> exact Plain.ok _

theorem strings_overlookLimit : ∀ e ∈ strings, e.function.OverlooksLimit := by
  simp only [strings, List.forall_mem_cons, List.not_mem_nil, false_implies, implies_true, and_true]
  and_intros
  all_goals first
    | exact overlooksLimit_native (overlooksLimit_padWith _)
    | refine overlooksLimit_pure fun args => ?_
      grind [onString, onStrings, concat, substring, replaceAll, decodeUri, testRegex]

theorem math_overlookLimit : ∀ e ∈ math, e.function.OverlooksLimit := by
  simp only [math, unaryMath, binaryMath, variadicMath, List.forall_mem_append, List.forall_mem_cons,
    List.not_mem_nil, false_implies, implies_true, and_true]
  and_intros
  all_goals
    refine overlooksLimit_pure fun args => ?_
    grind [abs, signum, onNumber, copySign]

theorem conversions_overlookLimit : ∀ e ∈ conversions, e.function.OverlooksLimit := by
  simp only [conversions, List.forall_mem_cons, List.not_mem_nil, false_implies, implies_true, and_true]
  and_intros
  all_goals
    refine overlooksLimit_pure fun args => ?_
    grind [toText, toInteger, toNumber, toBoolean, toColor, toUrl]

theorem colors_overlookLimit : ∀ e ∈ colors, e.function.OverlooksLimit := by
  simp only [colors, channels, List.flatMap_cons, List.flatMap_nil, List.forall_mem_append,
    List.forall_mem_cons, List.not_mem_nil, false_implies, implies_true, and_true]
  and_intros
  all_goals
    refine overlooksLimit_pure fun args => ?_
    grind [argb, rgb, getChannel, setChannel]

theorem overlooksLimit_nowLocal :
    NativeBody.OverlooksLimit fun site _ => .done (.ok (.datetime site.now)) where
  same _ _ _ := rfl
  plain site _ := Plain.ok (Value.datetime site.now)

theorem instants_overlookLimit : ∀ e ∈ instants, e.function.OverlooksLimit := by
  simp only [instants, List.forall_mem_cons, List.not_mem_nil, false_implies, implies_true, and_true]
  and_intros
  all_goals first
    | exact overlooksLimit_native overlooksLimit_nowLocal
    | refine overlooksLimit_pure fun args => ?_
      grind [parseUnixTime, addMillis, parseDateTime, formatDate, setYear, setField, getField]

theorem lookups_overlookLimit : ∀ e ∈ lookups, e.function.OverlooksLimit := by
  simp only [lookups, List.forall_mem_append, List.forall_mem_cons, List.mem_flatMap, List.not_mem_nil,
    false_implies, implies_true, and_true]
  refine ⟨?_, ?_⟩
  · rintro e ⟨⟨t, name⟩, -, member⟩
    revert e
    simp only [typedLookups, List.forall_mem_cons, List.not_mem_nil, false_implies, implies_true, and_true]
    and_intros
    all_goals
      refine overlooksLimit_pure fun args => ?_
      grind [getArray, getArrayOpt, getDict, getDictOpt]
  · and_intros
    all_goals
      refine overlooksLimit_pure fun args => ?_
      grind [arrayLength, isEmpty, containsKey, dictKeys, dictValues]

theorem getters_overlookLimit : ∀ e ∈ getters, e.function.OverlooksLimit := by
  intro e member
  obtain ⟨⟨t, name⟩, -, rfl⟩ := List.mem_map.mp member
  exact overlooksLimit_native (overlooksLimit_getValue t)

theorem entries_overlookLimit : ∀ e ∈ entries, e.function.OverlooksLimit := by
  simp only [entries, List.forall_mem_append]
  exact ⟨⟨⟨⟨⟨⟨strings_overlookLimit, math_overlookLimit⟩, conversions_overlookLimit⟩,
    colors_overlookLimit⟩, instants_overlookLimit⟩, lookups_overlookLimit⟩, getters_overlookLimit⟩

end Builtin

namespace Registry

/-- Every function that a call may select overlooks the limit. -/
def OverlooksLimit (r : Registry) : Prop :=
  ∀ kind name, ∀ f ∈ r.overloads kind name, f.OverlooksLimit

namespace OverlooksLimit

theorem empty : OverlooksLimit {} := by
  intro kind name f member
  cases kind <;> cases member

theorem add {r : Registry} (overlooks : r.OverlooksLimit) (kind : CallKind) {f : Function}
    (new : f.OverlooksLimit) : (r.add kind f).OverlooksLimit := by
  intro other name g member
  rcases (r.mem_overloads_add kind other f g name).mp member with old | ⟨-, rfl⟩
  · exact overlooks other name g old
  · exact new

theorem child {r : Registry} (overlooks : r.OverlooksLimit) : r.child.OverlooksLimit := by
  intro kind name f member
  rw [overloads_child] at member
  exact overlooks kind name f member

theorem registerCustom {r t : Registry} (overlooks : r.OverlooksLimit) {d : FunctionDeclaration}
    (done : r.registerCustom d = .ok t) : t.OverlooksLimit := by
  unfold Registry.registerCustom at done
  cases compiled : CustomFunction.compile d with
  | error e =>
      rw [compiled] at done
      cases done
  | ok f =>
      rw [compiled] at done
      unfold insert at done
      simp only [bind, Except.bind] at done
      split at done
      · cases done
        exact overlooks.add .function (Function.overlooksLimit_of_custom rfl)
      · cases done

theorem addEntries {r : Registry} (overlooks : r.OverlooksLimit) (entries : List Builtin.Entry)
    (new : ∀ e ∈ entries, e.function.OverlooksLimit) :
    (entries.foldl (fun r e => r.add e.kind e.function) r).OverlooksLimit := by
  induction entries generalizing r with
  | nil => exact overlooks
  | cons entry rest ih =>
      obtain ⟨first, later⟩ := List.forall_mem_cons.mp new
      exact ih (overlooks.add entry.kind first) later

theorem builtins : Registry.builtins.OverlooksLimit :=
  empty.addEntries Builtin.entries Builtin.entries_overlookLimit

end OverlooksLimit

/-- The registries of cards overlook the limit, however their functions call each other. -/
theorem overlooksLimit_of_card (d : CardDeclarations) (r : Registry) (done : d.registry = .ok r) :
    r.OverlooksLimit := by
  exact d.registry_preserves .builtins (fun r overlooks => overlooks.child)
    (fun r t declaration overlooks done => overlooks.registerCustom done) done

end Registry

end CardExpr
