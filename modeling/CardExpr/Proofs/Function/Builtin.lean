import Mathlib.Data.List.Forall2
import Mathlib.Logic.Relation
import CardExpr.Proofs.Evaluation.Semantics
import CardExpr.Proofs.Function.Dispatch

/-!
Calls of the built-in functions. Whatever is registered over them, a call that selects a built-in function
goes on to select it, and ends as the function does.
-/

namespace CardExpr

namespace Registry

/-- The first registry becomes the second by operations, of which any may be refused. -/
abbrev Later : Registry → Registry → Prop := Relation.ReflTransGen fun r t => ∃ op, t = r.after op

variable {r t : Registry} {kind : CallKind} {name : String} {values : List Value} {f : Function}

theorem select_after (op : Operation) (selected : r.select kind name values = .ok f) :
    (r.after op).select kind name values = .ok f := by
  unfold after
  split
  next done =>
    rw [select_of_attempt done (by rw [selected]; nofun)]
    exact selected
  next => exact selected

theorem Later.select_eq (later : Later r t) (selected : r.select kind name values = .ok f) :
    t.select kind name values = .ok f := by
  induction later with
  | refl => exact selected
  | tail _ step ih =>
      obtain ⟨op, rfl⟩ := step
      exact select_after op ih

/-- The built-in functions or methods of a name, in the order of their registration. -/
def builtinsOf (kind : CallKind) (name : String) : List Function :=
  offered [Builtin.entries.map fun e => (e.kind, e.function)] kind name

theorem select_builtins {before after : List Function} (listed : builtinsOf kind name = before ++ f :: after)
    (takes : f.signature.Takes values) (others : ∀ g ∈ before, ¬ g.signature.Takes values) :
    builtins.select kind name values = .ok f :=
  (settles_of_registered .builtins (.ok f)).mpr (.selected listed takes others)

theorem select_builtins_first (first : (builtinsOf kind name).head? = some f)
    (takes : f.signature.Takes values) :
    builtins.select kind name values = .ok f := by
  obtain ⟨after, listed⟩ := List.head?_eq_some_iff.mp first
  exact select_builtins (listed.trans (List.nil_append _).symm) takes
    fun g member => absurd member List.not_mem_nil

end Registry

/-- Values in the fixed positions of the signature and behind them, each of a type that it may have there. -/
structure Signature.Fits (s : Signature) (before after : List Value) : Prop where
  fixed : List.Forall₂ (fun expected v => expected.Admits v.type) s.args before
  further : ∀ v ∈ after, ∃ expected, s.tail = some expected ∧ expected.Admits v.type

def Signature.widened (s : Signature) (before after : List Value) : List Value :=
  s.args.zipWith ArgType.coerce before ++ after.map (s.tail.getD .any).coerce

namespace Signature.Fits

variable {sig : Signature} {before after : List Value} {i : Nat} {v : Value}

/-- Further values of the one type that the signature has for them. -/
theorem of_typed {t : ValueType} (tail : sig.tail = some (.of t))
    (fixed : List.Forall₂ (fun expected v => expected.Admits v.type) sig.args before)
    (typed : ∀ v ∈ after, v.type = t) : sig.Fits before after where
  fixed := fixed
  further v member := ⟨.of t, tail, typed v member ▸ .same t⟩

/-- They stay as they are: only integers are widened, to numbers. -/
theorem widened_of_typed {t : ValueType} (tail : sig.tail = some (.of t)) (typed : ∀ v ∈ after, v.type = t) :
    sig.widened before after = sig.args.zipWith ArgType.coerce before ++ after := by
  have kept (v : Value) (member : v ∈ after) : (ArgType.of t).coerce v = v := by
    refine ArgType.coerce_eq_self fun n integer number => ?_
    cases number
    have same := typed v member
    rw [integer] at same
    cases same
  rw [widened, tail, Option.getD_some, List.map_congr_left kept, List.map_id']

theorem has (fits : sig.Fits before after) (found : (before ++ after)[i]? = some v) :
    ∃ expected, sig.Has i expected ∧ expected.Admits v.type ∧
      (sig.widened before after)[i]? = some (expected.coerce v) := by
  have length := fits.fixed.length_eq
  have zipped : (sig.args.zipWith ArgType.coerce before).length = before.length := by simp [length]
  rw [widened]
  by_cases within : i < before.length
  · rw [List.getElem?_append_left within, List.getElem?_eq_getElem within] at found
    cases found
    have listed : i < sig.args.length := by rwa [length]
    have position := List.getElem?_eq_getElem listed
    refine ⟨sig.args[i], .fixed position, fits.fixed.get listed within, ?_⟩
    rw [List.getElem?_append_left (by rwa [zipped]), List.getElem?_zipWith, position,
      List.getElem?_eq_getElem within]
  · have beyond := Nat.le_of_not_lt within
    rw [List.getElem?_append_right beyond] at found
    obtain ⟨expected, tail, admits⟩ := fits.further v (List.mem_of_getElem? found)
    refine ⟨expected, .further (by rwa [length]) tail, admits, ?_⟩
    rw [List.getElem?_append_right (by rwa [zipped]), zipped, List.getElem?_map, found, tail]
    rfl

theorem takes (fits : sig.Fits before after) : sig.Takes (before ++ after) where
  counts := by
    rw [Counts, List.length_append, ← fits.fixed.length_eq]
    cases after with
    | nil => exact .inl rfl
    | cons v after =>
        obtain ⟨expected, tail, -⟩ := fits.further v List.mem_cons_self
        exact .inr ⟨Nat.le_add_right _ _, expected, tail⟩
  typed i v found := by
    obtain ⟨expected, has, admits, -⟩ := fits.has found
    exact ⟨expected, has, admits⟩

theorem checkArgs {f : Function} (fits : f.signature.Fits before after) :
    f.checkArgs (before ++ after) = .ok ⟨f.name, f.signature.widened before after⟩ := by
  refine Function.checkArgs_eq_ok_iff.mpr ⟨fun i v found => ?_, congrArg _ (List.ext_getElem? fun i => ?_)⟩
  · obtain ⟨expected, has, admits, -⟩ := fits.has found
    rw [Function.typeAt_eq has]
    exact (expected.accepts_iff v.type).mpr admits
  · rw [List.getElem?_mapIdx]
    cases found : (before ++ after)[i]? with
    | some v =>
        obtain ⟨expected, has, -, widened⟩ := fits.has found
        rw [widened, Function.typeAt_eq has]
        rfl
    | none =>
        have beyond := List.getElem?_eq_none_iff.mp found
        refine List.getElem?_eq_none ?_
        simpa [widened, fits.fixed.length_eq] using beyond

end Signature.Fits

theorem callFunction_pure {below : Below} {s : Setting} {kind : CallKind} {name : String}
    {before after : List Value} {f : Function} {body : Args → Except EvalError Value}
    (later : Registry.builtins.Later s.functions)
    (selected : Registry.builtins.select kind name (before ++ after) = .ok f)
    (fits : f.signature.Fits before after) (pure : f.body = .native (.pure body)) :
    callFunction below s kind name (before ++ after) =
      .ofExcept (body ⟨f.name, f.signature.widened before after⟩) := by
  rw [callFunction_checked (later.select_eq selected) fits.checkArgs, pure]
  rfl

end CardExpr
