import CardExpr.Proofs.Color.Text
import CardExpr.Proofs.Evaluation.Operands
import CardExpr.Proofs.Function.Builtin
import CardExpr.Proofs.Store.Batch

/-!
Typed lookups. They read what the indexing of the same operands comes to, the optional ones fall back where
that fails, and the methods differ from the functions in nothing but the name in their errors.
-/

namespace CardExpr

open Builtin

/-- What a value is read as for a type. A value of the type is itself and an integer is a number too; a string
is the color that its digits spell, and any string is a url. Nothing else is read. -/
inductive Value.IsReadAs : Value → ValueType → Value → Prop where
  | own {v : Value} {t : ValueType} (typed : v.type = t) : v.IsReadAs t v
  | widened (n : Int64) : (Value.integer n).IsReadAs .number (.number n.toFloat)
  | color {text : String} {digits : List Nat} {c : Color} (spells : Color.Spells text digits)
      (channels : c.argb.toNat = Color.number (Color.fullDigits digits)) :
      (Value.string text).IsReadAs .color (.color c)
  | url (text : String) : (Value.string text).IsReadAs .url (.url text)

inductive EvalError.OfIndexing : EvalError → Prop where
  | outOfBounds (index : Int64) (length : Nat) : OfIndexing (.indexOutOfBounds index length)
  | missingKey (key : String) : OfIndexing (.missingKey key)
  | notIndexable (target key : ValueType) : OfIndexing (.notIndexable target key)

def EvalError.named (callee : String) : EvalError → EvalError
  | .function _ failure => .function callee failure
  | e => e

/-- A lookup reads what is found as the type, and fails as the search for it does. -/
structure ReadsAs (callee : String) (t : ValueType) (found outcome : Except EvalError Value) : Prop where
  reads : ∀ v w, found = .ok v → v.IsReadAs t w → outcome = .ok w
  wrong : ∀ v, found = .ok v → (∀ w, ¬ v.IsReadAs t w) →
    outcome = .error (.function callee (.wrongElement t v.type))
  fails : ∀ e, found = .error e → e.OfIndexing ∧ outcome = .error e

/-- A lookup comes to what the strict one comes to, or else to its fallback as the type reads it. It fails
only where the fallback cannot be read so. -/
structure FallsBack (suffix : String) (t : ValueType) (other : Value)
    (strict outcome : Except EvalError Value) :
    Prop where
  found : ∀ v, strict = .ok v → outcome = .ok v
  missing : ∀ e v, strict = .error e → other.IsReadAs t v → outcome = .ok v
  fails : ∀ e, strict = .error e → (∀ v, ¬ other.IsReadAs t v) →
    outcome = .error (.returnType ("fallback of get" ++ suffix) t other.type)

theorem readAs_eq_some_iff (v : Value) (t : ValueType) (w : Value) :
    readAs v t = some w ↔ v.IsReadAs t w := by
  constructor
  · intro read
    unfold readAs at read
    split at read
    next text =>
      obtain ⟨c, parsed, rfl⟩ := Option.map_eq_some_iff.mp read
      obtain ⟨digits, spells, channels⟩ := Color.toOption_parse_eq_some_iff.mp parsed
      exact .color spells channels
    next text =>
      cases read
      exact .url text
    next =>
      cases (v.fits_iff t w).mpr read with
      | exact => exact .own rfl
      | widened n => exact .widened n
  · intro reads
    cases reads with
    | own typed =>
        subst typed
        cases v <;> rfl
    | widened n => rfl
    | @color text digits c spells channels =>
        show (Color.parse text).toOption.map Value.color = _
        rw [Color.toOption_parse_eq_some_iff.mpr ⟨digits, spells, channels⟩, Option.map_some]
    | url text => rfl

theorem readAs_eq_none_iff (v : Value) (t : ValueType) : readAs v t = none ↔ ∀ w, ¬ v.IsReadAs t w := by
  simp only [Option.eq_none_iff_forall_ne_some, ne_eq, readAs_eq_some_iff]

section Indexing

theorem ofIndexing_elementAt {items : List Value} {index : Int64} {e : EvalError}
    (failed : elementAt items index = .error e) : e.OfIndexing := by
  unfold elementAt at failed
  dsimp only at failed
  split at failed <;> cases failed
  exact .outOfBounds _ _

theorem ofIndexing_applyIndex {target key : Value} {e : EvalError}
    (failed : applyIndex target key = .error e) :
    e.OfIndexing := by
  unfold applyIndex at failed
  split at failed
  next => exact ofIndexing_elementAt failed
  next =>
    split at failed <;> cases failed
    exact .missingKey _
  next =>
    cases failed
    exact .notIndexable _ _

theorem followPath_eq_foldlM (root : Value) (keys : List String) :
    followPath root (keys.map .string) = (keys.map Value.string).foldlM applyIndex root := by
  induction keys generalizing root with
  | nil => rfl
  | cons key keys ih =>
      rw [List.map_cons, List.foldlM_cons]
      cases root with
      | dict entries =>
          rw [followPath, applyIndex]
          cases Table.find? entries key with
          | some v => exact ih v
          | none => rfl
      | _ => rfl

theorem ofIndexing_followPath {root : Value} {keys : List String} {e : EvalError}
    (failed : followPath root (keys.map .string) = .error e) : e.OfIndexing := by
  rw [followPath_eq_foldlM] at failed
  induction keys generalizing root with
  | nil => cases failed
  | cons key keys ih =>
      rw [List.map_cons, List.foldlM_cons] at failed
      cases first : applyIndex root (.string key) with
      | ok v =>
          rw [first] at failed
          exact ih failed
      | error c =>
          rw [first] at failed
          cases failed
          exact ofIndexing_applyIndex first

end Indexing

section Reading

variable {suffix : String} {t : ValueType} {found : Except EvalError Value} {args : Args}

/-- What an optional lookup comes to: what is found if it can be read as the type, else the fallback. -/
def orFallback (t : ValueType) (found : Except EvalError Value) (other : Value) : Except EvalError Value :=
  match found.toOption.bind (readAs · t) with
  | some v => .ok v
  | none => fallback t other

theorem readsAs_typed (ofIndexing : ∀ e, found = .error e → e.OfIndexing) (callee : String)
    (values : List Value) : ReadsAs callee t found (found >>= typed t ⟨callee, values⟩) where
  reads v w ok read := by
    rw [ok]
    show typed t _ v = _
    rw [typed, (readAs_eq_some_iff v t w).mpr read]
  wrong v ok unread := by
    rw [ok]
    show typed t _ v = _
    rw [typed, (readAs_eq_none_iff v t).mpr unread]
    rfl
  fails e failed := by
    refine ⟨ofIndexing e failed, ?_⟩
    rw [failed]
    rfl

theorem typed_named (ofIndexing : ∀ e, found = .error e → e.OfIndexing) (args more : Args) :
    (found >>= typed t args).mapError (EvalError.named more.callee) = found >>= typed t more := by
  cases found with
  | error e =>
      cases ofIndexing e rfl <;> rfl
  | ok v =>
      show (typed t args v).mapError _ = typed t more v
      unfold typed
      cases readAs v t <;> rfl

theorem orFallback_of_ok {v : Value} (strict : (found >>= typed t args) = .ok v) (other : Value) :
    orFallback t found other = .ok v := by
  cases found with
  | error e => cases strict
  | ok w =>
      change typed t args w = _ at strict
      unfold typed at strict
      show (match readAs w t with | some v => _ | none => _) = _
      cases reads : readAs w t with
      | some u =>
          rw [reads] at strict
          exact strict
      | none =>
          rw [reads] at strict
          cases strict

/-- An optional lookup does not tell what is not found from what cannot be read. -/
theorem orFallback_of_error {e : EvalError} (strict : (found >>= typed t args) = .error e) (other : Value) :
    orFallback t found other = fallback t other := by
  cases found with
  | error e => rfl
  | ok w =>
      change typed t args w = _ at strict
      unfold typed at strict
      show (match readAs w t with | some v => _ | none => _) = _
      cases reads : readAs w t with
      | some u =>
          rw [reads] at strict
          cases strict
      | none => rfl

theorem fallsBack_orFallback (name : elementName t = suffix) (other : Value) :
    FallsBack suffix t other (found >>= typed t args) (orFallback t found other) where
  found v ok := orFallback_of_ok ok other
  missing e v failed reads := by
    rw [orFallback_of_error failed, fallback, (readAs_eq_some_iff other t v).mpr reads]
  fails e failed unread := by
    rw [orFallback_of_error failed, fallback, (readAs_eq_none_iff other t).mpr unread, name]

theorem orFallback_named (callee : String) (other : Value) :
    (orFallback t found other).mapError (EvalError.named callee) = orFallback t found other := by
  unfold orFallback
  cases found.toOption.bind (readAs · t) with
  | some v => rfl
  | none =>
      unfold fallback
      cases readAs other t <;> rfl

theorem fallback_coerce (t : ValueType) (v : Value) :
    fallback t ((fallbackArg t).coerce v) = fallback t v := by
  cases t <;> cases v <;> rfl

theorem orFallback_coerce (t : ValueType) (found : Except EvalError Value) (v : Value) :
    orFallback t found ((fallbackArg t).coerce v) = orFallback t found v := by
  unfold orFallback
  rw [fallback_coerce]

end Reading

/-- The lookups of a type, as a call finds them. -/
structure Looked (t : ValueType) (suffix : String) : Prop where
  name : elementName t = suffix
  strictArray : (Registry.builtinsOf .function ("getArray" ++ suffix)).head? =
    some ⟨"getArray" ++ suffix, ⟨[array, integer], none, t⟩, .native (.pure (getArray t))⟩
  optionalArray : (Registry.builtinsOf .function ("getArrayOpt" ++ suffix)).head? =
    some ⟨"getArrayOpt" ++ suffix, ⟨[array, integer, fallbackArg t], none, t⟩,
      .native (.pure (getArrayOpt t))⟩
  strictDict : (Registry.builtinsOf .function ("getDict" ++ suffix)).head? =
    some ⟨"getDict" ++ suffix, ⟨[dict, string], some string, t⟩, .native (.pure (getDict t))⟩
  optionalDict : (Registry.builtinsOf .function ("getDictOpt" ++ suffix)).head? =
    some ⟨"getDictOpt" ++ suffix, ⟨[fallbackArg t, dict, string], some string, t⟩,
      .native (.pure (getDictOpt t))⟩
  strictMethods : Registry.builtinsOf .method ("get" ++ suffix) =
    [⟨"get" ++ suffix, ⟨[array, integer], none, t⟩, .native (.pure (getArray t))⟩,
      ⟨"get" ++ suffix, ⟨[dict, string], none, t⟩, .native (.pure (getDict t))⟩]
  optionalMethod : (Registry.builtinsOf .method ("getOpt" ++ suffix)).head? =
    some ⟨"getOpt" ++ suffix, ⟨[array, integer, fallbackArg t], none, t⟩, .native (.pure (getArrayOpt t))⟩

theorem looked_of_mem {t : ValueType} {suffix : String} (listed : (t, suffix) ∈ elementTypes) :
    Looked t suffix := by
  simp only [elementTypes, List.mem_cons, Prod.mk.injEq, List.not_mem_nil, or_false] at listed
  rcases listed with ⟨rfl, rfl⟩ | ⟨rfl, rfl⟩ | ⟨rfl, rfl⟩ | ⟨rfl, rfl⟩ | ⟨rfl, rfl⟩ | ⟨rfl, rfl⟩ |
    ⟨rfl, rfl⟩ | ⟨rfl, rfl⟩
  all_goals exact ⟨rfl, rfl, rfl, rfl, rfl, rfl, rfl⟩

namespace Looked

variable {t : ValueType} {suffix : String} {below : Below} {s : Setting} {items : List Value} {index : Int64}
  {entries : Table Value} {key : String} {keys : List String} {other : Value} {kind : CallKind}
  {name : String}

theorem fits_array (t : ValueType) (items : List Value) (index : Int64) :
    Signature.Fits ⟨[array, integer], none, t⟩ [.array items, .integer index] [] :=
  ⟨.cons (.same .array) (.cons (.same .integer) .nil), nofun⟩

theorem fits_arrayOpt (items : List Value) (index : Int64) (accepted : (fallbackArg t).Admits other.type) :
    Signature.Fits ⟨[array, integer, fallbackArg t], none, t⟩ [.array items, .integer index, other] [] :=
  ⟨.cons (.same .array) (.cons (.same .integer) (.cons accepted .nil)), nofun⟩

theorem strings_typed (keys : List String) : ∀ v ∈ keys.map Value.string, v.type = .string :=
  List.forall_mem_map.mpr fun _ _ => rfl

/-- A lookup in an array that is tried first is what the call comes to, by whatever name it goes. -/
theorem callFunction_ofArray (later : Registry.builtins.Later s.functions)
    (tried : (Registry.builtinsOf kind name).head? =
      some ⟨name, ⟨[array, integer], none, t⟩, .native (.pure (getArray t))⟩) :
    callFunction below s kind name [.array items, .integer index] =
      .ofExcept (getArray t ⟨name, [.array items, .integer index]⟩) := by
  have fits := fits_array t items index
  exact callFunction_pure later (Registry.select_builtins_first tried fits.takes) fits rfl

theorem callFunction_ofArrayOpt (later : Registry.builtins.Later s.functions)
    (tried : (Registry.builtinsOf kind name).head? =
      some ⟨name, ⟨[array, integer, fallbackArg t], none, t⟩, .native (.pure (getArrayOpt t))⟩)
    (accepted : (fallbackArg t).Admits other.type) :
    callFunction below s kind name [.array items, .integer index, other] =
      .ofExcept (orFallback t (elementAt items index) other) := by
  have fits := fits_arrayOpt items index accepted
  rw [← orFallback_coerce]
  exact callFunction_pure later (Registry.select_builtins_first tried fits.takes) fits rfl

theorem callFunction_getDict (looked : Looked t suffix) (later : Registry.builtins.Later s.functions) :
    callFunction below s .function ("getDict" ++ suffix) (.dict entries :: .string key :: keys.map .string) =
      .ofExcept (followPath (.dict entries) ((key :: keys).map .string) >>= typed t
        ⟨"getDict" ++ suffix, []⟩) := by
  have fits : Signature.Fits ⟨[dict, string], some string, t⟩ [.dict entries, .string key]
    (keys.map .string) :=
    .of_typed rfl (.cons (.same .dict) (.cons (.same .string) .nil)) (strings_typed keys)
  refine (callFunction_pure later (Registry.select_builtins_first looked.strictDict fits.takes)
    fits rfl).trans ?_
  rw [Signature.Fits.widened_of_typed rfl (strings_typed keys)]
  rfl

theorem callFunction_getDictOpt (looked : Looked t suffix) (later : Registry.builtins.Later s.functions)
    (accepted : (fallbackArg t).Admits other.type) :
    callFunction below s .function ("getDictOpt" ++ suffix)
        (other :: .dict entries :: .string key :: keys.map .string) =
      .ofExcept (orFallback t (followPath (.dict entries) ((key :: keys).map .string)) other) := by
  have fits : Signature.Fits ⟨[fallbackArg t, dict, string], some string, t⟩
    [other, .dict entries, .string key]
      (keys.map .string) :=
    .of_typed rfl (.cons accepted (.cons (.same .dict) (.cons (.same .string) .nil))) (strings_typed keys)
  rw [← orFallback_coerce]
  refine (callFunction_pure later (Registry.select_builtins_first looked.optionalDict fits.takes)
    fits rfl).trans ?_
  rw [Signature.Fits.widened_of_typed rfl (strings_typed keys)]
  rfl

/-- The method for dicts stands behind that for arrays, which takes no dict. -/
theorem callMethod_ofDict (looked : Looked t suffix) (later : Registry.builtins.Later s.functions) :
    callFunction below s .method ("get" ++ suffix) [.dict entries, .string key] =
      .ofExcept (getDict t ⟨"get" ++ suffix, [.dict entries, .string key]⟩) := by
  have fits : Signature.Fits ⟨[dict, string], none, t⟩ [.dict entries, .string key] [] :=
    ⟨.cons (.same .dict) (.cons (.same .string) .nil), nofun⟩
  have refused : ¬ Signature.Takes ⟨[array, integer], none, t⟩ [.dict entries, .string key] := by
    intro takes
    obtain ⟨expected, has, admits⟩ := takes.typed 0 _ rfl
    cases has.unique (.fixed rfl)
    cases admits
  have listed : Registry.builtinsOf .method ("get" ++ suffix) = [_] ++ _ :: [] := looked.strictMethods
  refine callFunction_pure later (Registry.select_builtins listed fits.takes ?_) fits rfl
  intro g member
  rw [List.mem_singleton.mp member]
  exact refused

end Looked

section Results

variable {t : ValueType} {suffix : String} {s : Setting} {depth : Nat} {a d f i k : Expr} {ks : List Expr}
  {items : List Value} {n : Int64} {entries : Table Value} {key : String} {keys : List String} {other : Value}

theorem result_index (target : s.ComesTo depth a (.array items)) (position : s.ComesTo depth i (.integer n)) :
    (eval (depth + 1) s (.index a i)).result = elementAt items n := by
  rw [IsStrict.index, target, position]
  rfl

theorem result_getArray (looked : Looked t suffix) (later : Registry.builtins.Later s.functions)
    (target : s.ComesTo depth a (.array items)) (position : s.ComesTo depth i (.integer n)) :
    (eval (depth + 1) s (.call ("getArray" ++ suffix) [a, i])).result =
      elementAt items n >>= typed t ⟨"getArray" ++ suffix, [.array items, .integer n]⟩ := by
  rw [Setting.ComesTo.result_call (.cons target (.cons position .nil)),
    Looked.callFunction_ofArray later looked.strictArray]
  rfl

theorem result_getArrayOpt (looked : Looked t suffix) (later : Registry.builtins.Later s.functions)
    (target : s.ComesTo depth a (.array items)) (position : s.ComesTo depth i (.integer n))
    (fallback : s.ComesTo depth f other) (accepted : (fallbackArg t).Admits other.type) :
    (eval (depth + 1) s (.call ("getArrayOpt" ++ suffix) [a, i, f])).result =
      orFallback t (elementAt items n) other := by
  rw [Setting.ComesTo.result_call (.cons target (.cons position (.cons fallback .nil))),
    Looked.callFunction_ofArrayOpt later looked.optionalArray accepted]
  rfl

theorem array_lookups (looked : Looked t suffix) (later : Registry.builtins.Later s.functions)
    (target : s.ComesTo depth a (.array items)) (position : s.ComesTo depth i (.integer n)) :
    ReadsAs ("getArray" ++ suffix) t (eval (depth + 1) s (.index a i)).result
        (eval (depth + 1) s (.call ("getArray" ++ suffix) [a, i])).result ∧
      (eval (depth + 1) s (.method a ("get" ++ suffix) [i])).result =
        (eval (depth + 1) s (.call ("getArray" ++ suffix) [a, i])).result.mapError
          (EvalError.named ("get" ++ suffix)) := by
  have ofIndexing (e : EvalError) (failed : elementAt items n = .error e) : e.OfIndexing :=
    ofIndexing_elementAt failed
  rw [result_index target position, result_getArray looked later target position]
  refine ⟨readsAs_typed ofIndexing _ _, ?_⟩
  rw [Setting.ComesTo.result_method (.cons target (.cons position .nil)), Looked.callFunction_ofArray later
    (List.head?_eq_some_iff.mpr ⟨_, looked.strictMethods⟩)]
  exact (typed_named ofIndexing _ ⟨"get" ++ suffix, _⟩).symm

theorem array_fallbacks (looked : Looked t suffix) (later : Registry.builtins.Later s.functions)
    (target : s.ComesTo depth a (.array items)) (position : s.ComesTo depth i (.integer n))
    (fallback : s.ComesTo depth f other) (accepted : (fallbackArg t).Admits other.type) :
    FallsBack suffix t other (eval (depth + 1) s (.call ("getArray" ++ suffix) [a, i])).result
        (eval (depth + 1) s (.call ("getArrayOpt" ++ suffix) [a, i, f])).result ∧
      (eval (depth + 1) s (.method a ("getOpt" ++ suffix) [i, f])).result =
        (eval (depth + 1) s (.call ("getArrayOpt" ++ suffix) [a, i, f])).result.mapError
          (EvalError.named ("getOpt" ++ suffix)) := by
  rw [result_getArrayOpt looked later target position fallback accepted,
    result_getArray looked later target position]
  refine ⟨fallsBack_orFallback looked.name other, ?_⟩
  rw [Setting.ComesTo.result_method (.cons target (.cons position (.cons fallback .nil))),
    Looked.callFunction_ofArrayOpt later looked.optionalMethod accepted, orFallback_named]
  rfl

theorem forall₂_keys (first : s.ComesTo depth k (.string key))
    (others : List.Forall₂ (fun e key => s.ComesTo depth e (.string key)) ks keys) :
    List.Forall₂ (s.ComesTo depth) (k :: ks) ((key :: keys).map .string) :=
  .cons first (List.forall₂_map_right_iff.mpr others)

theorem result_path (target : s.ComesTo depth d (.dict entries))
    (path : List.Forall₂ (s.ComesTo depth) (k :: ks) ((key :: keys).map .string)) :
    (eval (depth + (k :: ks).length) s ((k :: ks).foldl .index d)).result =
      followPath (.dict entries) ((key :: keys).map .string) := by
  rw [IsStrict.index.result_foldl path, target, followPath_eq_foldlM]
  rfl

theorem result_getDict (looked : Looked t suffix) (later : Registry.builtins.Later s.functions)
    (target : s.ComesTo depth d (.dict entries))
    (path : List.Forall₂ (s.ComesTo depth) (k :: ks) ((key :: keys).map .string)) :
    (eval (depth + 1) s (.call ("getDict" ++ suffix) (d :: k :: ks))).result =
      followPath (.dict entries) ((key :: keys).map .string) >>= typed t ⟨"getDict" ++ suffix, []⟩ := by
  rw [Setting.ComesTo.result_call (.cons target path), List.map_cons, looked.callFunction_getDict later]
  rfl

theorem dict_lookups (looked : Looked t suffix) (later : Registry.builtins.Later s.functions)
    (target : s.ComesTo depth d (.dict entries))
    (path : List.Forall₂ (s.ComesTo depth) (k :: ks) ((key :: keys).map .string)) :
    ReadsAs ("getDict" ++ suffix) t (eval (depth + (k :: ks).length) s ((k :: ks).foldl .index d)).result
      (eval (depth + 1) s (.call ("getDict" ++ suffix) (d :: k :: ks))).result := by
  rw [result_path target path, result_getDict looked later target path]
  exact readsAs_typed (fun e failed => ofIndexing_followPath failed) _ _

theorem dict_method (looked : Looked t suffix) (later : Registry.builtins.Later s.functions)
    (target : s.ComesTo depth d (.dict entries)) (first : s.ComesTo depth k (.string key)) :
    (eval (depth + 1) s (.method d ("get" ++ suffix) [k])).result =
      (eval (depth + 1) s (.call ("getDict" ++ suffix) [d, k])).result.mapError
        (EvalError.named ("get" ++ suffix)) := by
  have path : List.Forall₂ (s.ComesTo depth) [k] ([key].map .string) := forall₂_keys first .nil
  have ofIndexing (e : EvalError) (failed : followPath (.dict entries) ([key].map .string) = .error e) :
      e.OfIndexing := ofIndexing_followPath failed
  rw [result_getDict looked later target path, Setting.ComesTo.result_method (.cons target path)]
  refine (congrArg Run.result (looked.callMethod_ofDict later)).trans ?_
  exact (typed_named ofIndexing ⟨"getDict" ++ suffix, []⟩
    ⟨"get" ++ suffix, [.dict entries, .string key]⟩).symm

theorem dict_fallbacks (looked : Looked t suffix) (later : Registry.builtins.Later s.functions)
    (target : s.ComesTo depth d (.dict entries))
    (path : List.Forall₂ (s.ComesTo depth) (k :: ks) ((key :: keys).map .string))
    (fallback : s.ComesTo depth f other) (accepted : (fallbackArg t).Admits other.type) :
    FallsBack suffix t other (eval (depth + 1) s (.call ("getDict" ++ suffix) (d :: k :: ks))).result
      (eval (depth + 1) s (.call ("getDictOpt" ++ suffix) (f :: d :: k :: ks))).result := by
  rw [result_getDict looked later target path, Setting.ComesTo.result_call
    (.cons fallback (.cons target path)),
    List.map_cons, looked.callFunction_getDictOpt later accepted]
  exact fallsBack_orFallback looked.name other

end Results

/-- Whatever is registered over the built-in functions, and for operands that come to values of the types that
the lookups look into: a lookup of an element type reads what the indexing of the same operands comes to, and
fails as the indexing does; an optional one falls back where that fails; and the methods end as the functions
do, but for the name in errors. -/
theorem typedLookups_agree (s : Setting) (later : Registry.builtins.Later s.functions) (depth : Nat)
    (t : ValueType) (suffix : String) (listed : (t, suffix) ∈ elementTypes) :
    (∀ a i items n, s.ComesTo depth a (.array items) → s.ComesTo depth i (.integer n) →
      ReadsAs ("getArray" ++ suffix) t (eval (depth + 1) s (.index a i)).result
        (eval (depth + 1) s (.call ("getArray" ++ suffix) [a, i])).result ∧
      (eval (depth + 1) s (.method a ("get" ++ suffix) [i])).result =
        (eval (depth + 1) s (.call ("getArray" ++ suffix) [a, i])).result.mapError
          (EvalError.named ("get" ++ suffix)) ∧
      ∀ f other, s.ComesTo depth f other → (fallbackArg t).Admits other.type →
        FallsBack suffix t other (eval (depth + 1) s (.call ("getArray" ++ suffix) [a, i])).result
          (eval (depth + 1) s (.call ("getArrayOpt" ++ suffix) [a, i, f])).result ∧
        (eval (depth + 1) s (.method a ("getOpt" ++ suffix) [i, f])).result =
          (eval (depth + 1) s (.call ("getArrayOpt" ++ suffix) [a, i, f])).result.mapError
            (EvalError.named ("getOpt" ++ suffix))) ∧
    ∀ d k entries key, s.ComesTo depth d (.dict entries) → s.ComesTo depth k (.string key) →
      (eval (depth + 1) s (.method d ("get" ++ suffix) [k])).result =
        (eval (depth + 1) s (.call ("getDict" ++ suffix) [d, k])).result.mapError
          (EvalError.named ("get" ++ suffix)) ∧
      ∀ ks keys, List.Forall₂ (fun e key => s.ComesTo depth e (.string key)) ks keys →
        ReadsAs ("getDict" ++ suffix) t (eval (depth + (k :: ks).length) s ((k :: ks).foldl .index d)).result
          (eval (depth + 1) s (.call ("getDict" ++ suffix) (d :: k :: ks))).result ∧
        ∀ f other, s.ComesTo depth f other → (fallbackArg t).Admits other.type →
          FallsBack suffix t other (eval (depth + 1) s (.call ("getDict" ++ suffix) (d :: k :: ks))).result
            (eval (depth + 1) s (.call ("getDictOpt" ++ suffix) (f :: d :: k :: ks))).result := by
  have looked := looked_of_mem listed
  constructor
  · intro a i items n target position
    obtain ⟨reads, renamed⟩ := array_lookups looked later target position
    exact ⟨reads, renamed, fun f other fallback accepted =>
      array_fallbacks looked later target position fallback accepted⟩
  · intro d k entries key target first
    refine ⟨dict_method looked later target first, fun ks keys others => ?_⟩
    have path := forall₂_keys first others
    exact ⟨dict_lookups looked later target path, fun f other fallback accepted =>
      dict_fallbacks looked later target path fallback accepted⟩

/-- An integer within dicts is read as a number, and one that is fallen back to is widened too. Of two strings
the first one is a color. -/
theorem typedLookups_agree_of_number :
    ∃ (s : Setting) (a c d : Expr) (inner : Table Value), Registry.builtins.Later s.functions ∧
      (ValueType.number, "Number") ∈ elementTypes ∧ (ValueType.color, "Color") ∈ elementTypes ∧
      s.ComesTo 1 a (.array [.integer 5]) ∧ s.ComesTo 1 d (.dict [("k", .dict inner)]) ∧
      s.ComesTo 1 c (.array [.string "#F00", .string "red"]) ∧
      (eval 2 s (.call "getArrayNumber" [a, .integer (-1)])).result = .error (.indexOutOfBounds (-1) 1) ∧
      (eval 2 s (.method a "getNumber" [.integer (-1)])).result = .error (.indexOutOfBounds (-1) 1) ∧
      (eval 2 s (.call "getArrayOptNumber" [a, .integer (-1), .integer 2])).result =
        .ok (.number (Int64.toFloat 2)) ∧
      (eval 3 s (.index (.index d (.string "k")) (.string "n"))).result = .ok (.integer 7) ∧
      (eval 2 s (.call "getDictNumber" [d, .string "k", .string "n"])).result =
        .ok (.number (Int64.toFloat 7)) ∧
      (eval 2 s (.call "getDictOptNumber" [.integer 2, d, .string "k", .string "n"])).result =
        .ok (.number (Int64.toFloat 7)) ∧
      (eval 2 s (.call "getArrayColor" [c, .integer 0])).result = .ok (.color ⟨0xFFFF0000⟩) ∧
      (eval 2 s (.call "getArrayColor" [c, .integer 1])).result =
        .error (.function "getArrayColor" (.wrongElement .color .string)) := by
  let inner : Table Value := [("n", .integer 7)]
  let colors : List Value := [.string "#F00", .string "red"]
  let s : Setting :=
    ⟨.ofTable [("a", .array [.integer 5]), ("c", .array colors), ("d", .dict [("k", .dict inner)])],
     .builtins, {}, .epoch⟩
  have number : (ValueType.number, "Number") ∈ elementTypes := by simp [elementTypes]
  have color : (ValueType.color, "Color") ∈ elementTypes := by simp [elementTypes]
  obtain ⟨arrays, dicts⟩ := typedLookups_agree s .refl 1 .number "Number" number
  obtain ⟨reads, renamed, fallbacks⟩ := arrays (.variable "a") (.integer (-1)) [.integer 5] (-1) rfl rfl
  obtain ⟨falls, -⟩ := fallbacks (.integer 2) (.integer 2) rfl .widened
  obtain ⟨-, paths⟩ := dicts (.variable "d") (.string "k") [("k", .dict inner)] "k" rfl rfl
  obtain ⟨read, others⟩ := paths [.string "n"] ["n"] (.cons rfl .nil)
  obtain ⟨colorArrays, -⟩ := typedLookups_agree s .refl 1 .color "Color" color
  have first := (colorArrays (.variable "c") (.integer 0) colors 0 rfl rfl).1
  have second := (colorArrays (.variable "c") (.integer 1) colors 1 rfl rfl).1
  have outside := (reads.fails (.indexOutOfBounds (-1) 1) rfl).2
  have seven := read.reads (.integer 7) _ rfl (.widened 7)
  have red : (Value.string "#F00").IsReadAs .color (.color ⟨0xFFFF0000⟩) :=
    .color ⟨⟨['F', '0', '0'], rfl, by decide⟩, by decide⟩
      (by decide : _ = Color.number (Color.fullDigits [15, 0, 0]))
  have unread (w : Value) : ¬ (Value.string "red").IsReadAs .color w := by
    intro read
    cases read with
    | own typed => cases typed
    | color spells =>
        obtain ⟨hex, written, -⟩ := spells.spelled
        rw [show "red".toList = ['r', 'e', 'd'] from rfl] at written
        cases written
  refine ⟨s, .variable "a", .variable "c", .variable "d", inner, .refl, number, color, rfl, rfl, rfl,
    outside, ?_,
    falls.missing _ _ outside (.widened 2), rfl, seven,
    (others (.integer 2) (.integer 2) rfl .widened).found _ seven, first.reads _ _ rfl red,
    second.wrong _ rfl unread⟩
  refine renamed.trans ?_
  rw [outside]
  rfl

end CardExpr
