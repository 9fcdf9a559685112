import CardExpr.Evaluation.Basic

/-!
Properties of evaluations that come from their steps. What holds of runs that read nothing and of the lookup
of one variable, and goes through sequences and rescues, holds of every evaluation.
-/

namespace CardExpr

variable {α β : Type}

def Setting.over (s : Setting) (r : Resolver) : Setting := { s with resolve := r }

/-- A property of runs over a resolver that belongs to a run if it belongs to all steps of it. -/
structure Compositional (P : (α : Type) → (Resolver → Run α) → Prop) : Prop where
  /-- A run that reads nothing. -/
  const : ∀ {α : Type} (m : Run α), m.reads = [] → P α fun _ => m
  lookUp : ∀ (s : Setting) (name : String), P _ fun r => readVariable (s.over r) name
  bind : ∀ {α β : Type} {m : Resolver → Run α} {next : Resolver → α → Run β},
    P α m → (∀ a, P β fun r => next r a) → P β fun r => m r >>= next r
  rescue : ∀ {m other : Resolver → Run Value}, P Value m → P Value other →
    P Value fun r => (m r).rescue fun _ => other r

/-- A request to read is a lookup that the function goes on from. -/
theorem answer_read (s : Setting) (callee name : String) (next : Option Value → Action) :
    answer s callee (.read name next) = readVariable s name >>= fun found => answer s callee (next found) :=
  rfl

theorem answer_warn (s : Setting) (callee message : String) (next : Action) :
    answer s callee (.warn message next) =
      (⟨.ok (), [], [⟨callee, message⟩]⟩ : Run Unit) >>= fun _ => answer s callee next :=
  rfl

namespace Compositional

variable {P : (α : Type) → (Resolver → Run α) → Prop} (compositional : Compositional P)

include compositional

theorem pure (a : α) : P α fun _ => Pure.pure a := compositional.const _ rfl

theorem ofExcept (outcome : Except EvalError α) : P α fun _ => .ofExcept outcome := compositional.const _ rfl

/-- A built-in function learns nothing of the variables but what it asks for. -/
theorem answer (s : Setting) (callee : String) (action : Action) :
    P Value fun r => CardExpr.answer (s.over r) callee action := by
  induction action with
  | done outcome => exact compositional.ofExcept outcome
  | read name next ih =>
      simp only [answer_read]
      exact compositional.bind (compositional.lookUp s name) ih
  | warn message next ih =>
      simp only [answer_warn]
      exact compositional.bind (compositional.const _ rfl) fun _ => ih

/-- The body of a custom function runs over its arguments, whatever the resolver is. -/
theorem callCustom (below : Below) (s : Setting) (f : CustomFunction) (args : Args) :
    P Value fun r => CardExpr.callCustom below (s.over r) f args := by
  have silent : (evalBody below s f args).reads = [] := by
    unfold evalBody
    split <;> rfl
  refine compositional.bind (m := fun _ => (evalBody below s f args).mapError _)
    (compositional.const _ silent)
    fun v => compositional.const _ ?_
  unfold expectReturned
  split <;> rfl

theorem callFunction (below : Below) (s : Setting) (kind : CallKind) (name : String) (values : List Value) :
    P Value fun r => CardExpr.callFunction below (s.over r) kind name values := by
  refine compositional.bind (compositional.ofExcept (s.functions.select kind name values)) fun f => ?_
  refine compositional.bind (compositional.ofExcept ((f.checkArgs values).mapError .argumentType))
    fun args => ?_
  cases f.body with
  | native body => exact compositional.answer s f.name (body s.callSite args)
  | custom custom => exact compositional.callCustom below s custom args

section Levels

variable {below : Below} (trees : ∀ s e, P Value fun r => below (Setting.over s r) e)

include trees

theorem evalCondition (s : Setting) (operator : String) (e : Expr) :
    P Bool fun r => CardExpr.evalCondition (below (s.over r)) operator e := by
  refine compositional.bind (trees s e) fun v => compositional.const _ ?_
  cases v <;> rfl

theorem evalAll (s : Setting) (es : List Expr) :
    P (List Value) fun r => CardExpr.evalAll (below (s.over r)) es := by
  induction es with
  | nil => exact compositional.pure []
  | cons e es ih =>
      exact compositional.bind (trees s e) fun v => compositional.bind ih fun vs =>
        compositional.pure (v :: vs)

theorem evalParts (s : Setting) (parts : List TemplatePart) :
    P String fun r => CardExpr.evalParts (below (s.over r)) parts := by
  induction parts with
  | nil => exact compositional.pure ""
  | cons part rest ih =>
      cases part with
      | text content => exact compositional.bind ih fun text => compositional.pure (content ++ text)
      | span e =>
          exact compositional.bind (trees s e) fun v => compositional.bind ih fun text =>
            compositional.pure (v.text ++ text)

theorem evalBinary (s : Setting) (op : BinaryOp) (left right : Expr) :
    P Value fun r => CardExpr.evalBinary (below (s.over r)) op left right := by
  have condition := compositional.evalCondition trees s op.symbol
  have lastOperand : P Value fun r =>
      CardExpr.evalCondition (below (s.over r)) op.symbol right >>= fun b => Pure.pure (Value.boolean b) :=
    compositional.bind (condition right) fun b => compositional.pure (Value.boolean b)
  cases op
  case and =>
    refine compositional.bind (condition left) fun b => ?_
    cases b with
    | false => exact compositional.pure (Value.boolean false)
    | true => exact lastOperand
  case or =>
    refine compositional.bind (condition left) fun b => ?_
    cases b with
    | false => exact lastOperand
    | true => exact compositional.pure (Value.boolean true)
  all_goals
    exact compositional.bind (trees s left) fun _ => compositional.bind (trees s right) fun _ =>
      compositional.ofExcept _

theorem evalNode (s : Setting) (e : Expr) : P Value fun r => CardExpr.evalNode below (s.over r) e := by
  cases e with
  | integer n => exact compositional.pure (Value.integer n)
  | number x => exact compositional.pure (Value.number x)
  | string t => exact compositional.pure (Value.string t)
  | boolean b => exact compositional.pure (Value.boolean b)
  | «variable» name =>
      refine compositional.bind (compositional.lookUp s name) fun found => ?_
      cases found with
      | none => exact compositional.const _ rfl
      | some v => exact compositional.pure v
  | unary op operand =>
      exact compositional.bind (trees s operand) fun v => compositional.ofExcept (applyUnary op v)
  | binary op left right => exact compositional.evalBinary trees s op left right
  | ternary condition thenBranch elseBranch =>
      refine compositional.bind (compositional.evalCondition trees s "?:" condition) fun b => ?_
      cases b with
      | false => exact trees s elseBranch
      | true => exact trees s thenBranch
  | rescue operand fallback => exact compositional.rescue (trees s operand) (trees s fallback)
  | call name args =>
      exact compositional.bind (compositional.evalAll trees s args) fun values =>
        compositional.callFunction below s .function name values
  | method receiver name args =>
      exact compositional.bind (trees s receiver) fun v =>
        compositional.bind (compositional.evalAll trees s args) fun vs =>
          compositional.callFunction below s .method name (v :: vs)
  | index target key =>
      exact compositional.bind (trees s target) fun t => compositional.bind (trees s key) fun k =>
        compositional.ofExcept (applyIndex t k)
  | template parts =>
      exact compositional.bind (compositional.evalParts trees s parts) fun text =>
        compositional.pure (Value.string text)

end Levels

theorem eval (depth : Nat) (s : Setting) (e : Expr) : P Value fun r => CardExpr.eval depth (s.over r) e := by
  induction depth generalizing s e with
  | zero => exact compositional.const (.fail (.depthLimitExceeded s.config.maxDepth)) rfl
  | succ depth ih => exact compositional.evalNode ih s e

end Compositional

end CardExpr
