import Mathlib.Data.List.Forall2
import CardExpr.Proofs.Evaluation.Agreement
import CardExpr.Proofs.Function.Builtin

/-!
Operators and calls over operands whose values are known. A tree that has a value within some levels has it
within more, so operands keep their values wherever they stand.
-/

namespace CardExpr

/-- The tree comes to the value within so many levels. -/
def Setting.ComesTo (s : Setting) (depth : Nat) (e : Expr) (v : Value) : Prop :=
  (eval depth s e).result = .ok v

namespace Setting.ComesTo

variable {s : Setting} {depth more : Nat} {e : Expr} {es : List Expr} {v : Value} {vs : List Value}

theorem eval_eq (known : s.ComesTo depth e v) (enough : depth ≤ more) : eval more s e = eval depth s e := by
  rcases settles_tree depth s e with cut | ⟨n, within, evaluates⟩
  · cases known.symm.trans cut
  · exact evaluates.limited.enough more (Nat.le_trans within enough)

theorem mono (known : s.ComesTo depth e v) (enough : depth ≤ more) : s.ComesTo more e v := by
  unfold ComesTo
  rw [known.eval_eq enough]
  exact known

theorem evalAll (known : List.Forall₂ (s.ComesTo depth) es vs) :
    (CardExpr.evalAll (eval depth s) es).result = .ok vs := by
  induction known with
  | nil => rfl
  | @cons e v es vs head tail ih =>
      calc
        (CardExpr.evalAll (eval depth s) (e :: es)).result
          = (eval depth s e).result >>= fun v =>
              (CardExpr.evalAll (eval depth s) es).result >>= fun vs => .ok (v :: vs) := by
            simp only [CardExpr.evalAll, Run.result_bind]
            rfl
        _ = .ok (v :: vs) := by
            rw [head, ih]
            rfl

theorem of_evalAll (ok : (CardExpr.evalAll (eval depth s) es).result = .ok vs) :
    List.Forall₂ (s.ComesTo depth) es vs := by
  induction es generalizing vs with
  | nil =>
      cases ok
      exact .nil
  | cons e es ih =>
      simp only [CardExpr.evalAll, Run.result_bind] at ok
      cases head : (eval depth s e).result with
      | error c => rw [head] at ok; cases ok
      | ok v =>
          cases tail : (CardExpr.evalAll (eval depth s) es).result with
          | error c => rw [head, tail] at ok; cases ok
          | ok ws =>
              rw [head, tail] at ok
              cases ok
              exact .cons head (ih tail)

theorem arguments {name : String} (known : s.ComesTo (depth + 1) (.call name es) v) :
    ∃ vs, List.Forall₂ (s.ComesTo depth) es vs := by
  change (CardExpr.evalAll (eval depth s) es >>= fun values =>
    callFunction (eval depth) s .function name values).result = _ at known
  rw [Run.result_bind] at known
  cases evaluated : (CardExpr.evalAll (eval depth s) es).result with
  | error c => rw [evaluated] at known; cases known
  | ok vs => exact ⟨vs, of_evalAll evaluated⟩

/-- A call over known arguments ends as the function does that is given their values. -/
theorem result_call (known : List.Forall₂ (s.ComesTo depth) es vs) (name : String) :
    (eval (depth + 1) s (.call name es)).result =
      (callFunction (eval depth) s .function name vs).result := by
  show (CardExpr.evalAll (eval depth s) es >>= fun values =>
    callFunction (eval depth) s .function name values).result = _
  rw [Run.result_bind, evalAll known]
  rfl

theorem result_method (known : List.Forall₂ (s.ComesTo depth) (e :: es) (v :: vs)) (name : String) :
    (eval (depth + 1) s (.method e name es)).result =
      (callFunction (eval depth) s .method name (v :: vs)).result := by
  show (evalNode (eval depth) s (.method e name es)).result = _
  rw [evalNode_method, Run.result_bind, evalAll known]
  rfl

/-- A call of a built-in function, tried first, ends as the function does with the values of the arguments. -/
theorem result_builtin {name : String} {sig : Signature} {body : Args → Except EvalError Value}
    (known : List.Forall₂ (s.ComesTo depth) es vs) (later : Registry.builtins.Later s.functions)
    (tried : (Registry.builtinsOf .function name).head? = some ⟨name, sig, .native (.pure body)⟩)
    (fits : sig.Fits vs []) :
    (eval (depth + 1) s (.call name es)).result = body ⟨name, sig.widened vs []⟩ := by
  have called : callFunction (eval depth) s .function name (vs ++ []) =
      .ofExcept (body ⟨name, sig.widened vs []⟩) :=
    callFunction_pure later (Registry.select_builtins_first tried fits.takes) fits rfl
  rw [List.append_nil] at called
  rw [result_call known, called]
  rfl

end Setting.ComesTo

/-- Both operands of the node are evaluated, the left one first, and then the operation is applied. -/
def IsStrict (node : Expr → Expr → Expr) (apply : Value → Value → Except EvalError Value) : Prop :=
  ∀ (s : Setting) (depth : Nat) (a b : Expr), (eval (depth + 1) s (node a b)).result =
    (eval depth s a).result >>= fun v => (eval depth s b).result >>= fun w => apply v w

theorem IsStrict.binary {op : BinaryOp} (strict : op.deciding? = none) :
    IsStrict (.binary op) (applyBinary op) := by
  intro s depth a b
  show (evalBinary (eval depth s) op a b).result = _
  rw [evalBinary_strict strict]
  simp only [Run.result_bind]
  rfl

theorem IsStrict.index : IsStrict .index applyIndex := by
  intro s depth a b
  show (eval depth s a >>= fun v => eval depth s b >>= fun w => Run.ofExcept (applyIndex v w)).result = _
  simp only [Run.result_bind]
  rfl

/-- Operands joined from the left by such a node end as the operation does that is applied from the left. -/
theorem IsStrict.result_foldl {node : Expr → Expr → Expr} {apply : Value → Value → Except EvalError Value}
    (strict : IsStrict node apply) {s : Setting} {depth : Nat} {es : List Expr} {vs : List Value}
    (known : List.Forall₂ (s.ComesTo depth) es vs) (e : Expr) :
    (eval (depth + es.length) s (es.foldl node e)).result =
      (eval depth s e).result >>= fun v => vs.foldlM apply v := by
  induction es generalizing depth vs e with
  | nil =>
      cases known
      exact (bind_pure (eval depth s e).result).symm
  | cons b es ih =>
      obtain ⟨w, ws, head, tail, rfl⟩ := List.forall₂_cons_left_iff.mp known
      have later : List.Forall₂ (s.ComesTo (depth + 1)) es ws :=
        tail.imp fun _ _ known => known.mono (Nat.le_succ depth)
      calc
        (eval (depth + (es.length + 1)) s (es.foldl node (node e b))).result
          = (eval (depth + 1 + es.length) s (es.foldl node (node e b))).result := by
            rw [Nat.add_right_comm, Nat.add_assoc]
        _ = (eval (depth + 1) s (node e b)).result >>= fun v => ws.foldlM apply v := ih later (node e b)
        _ = (eval depth s e).result >>= fun v => (w :: ws).foldlM apply v := by
            rw [strict, head]
            cases (eval depth s e).result <;> rfl

end CardExpr
