import CardExpr.Proofs.Evaluation.Semantics
import CardExpr.Proofs.Function.Limit

/-! Why evaluations fail: the depth limit is named where it cuts an evaluation off, and nowhere else. -/

namespace CardExpr

variable {α β : Type}

/-- The trees that one level of an evaluation may ask for, bodies of custom functions apart. -/
def Expr.children : Expr → List Expr
  | .unary _ operand => [operand]
  | .binary _ left right => [left, right]
  | .ternary condition thenBranch elseBranch => [condition, thenBranch, elseBranch]
  | .rescue operand fallback => [operand, fallback]
  | .call _ args => args
  | .method receiver _ args => receiver :: args
  | .index target key => [target, key]
  | .template parts => parts.filterMap fun
    | .text _ => none
    | .span e => some e
  | _ => []

/-- The functions that the call at the top of the tree may select. -/
def Expr.callees (r : Registry) : Expr → List Function
  | .call name args => r.candidates .function name args.length
  | .method _ name args => r.candidates .method name (args.length + 1)
  | _ => []

theorem Registry.mem_candidates_of_select {r : Registry} {kind : CallKind} {name : String}
    {values : List Value} {f : Function} (selected : r.select kind name values = .ok f) :
    f ∈ r.candidates kind name values.length := by
  unfold select at selected
  dsimp only at selected
  split at selected
  next found =>
    cases selected
    exact List.mem_of_find?_eq_some found
  next =>
    split at selected
    next first rest listed =>
      rw [listed]
      split at selected
      · cases selected
      · cases selected
        exact List.mem_cons_self
    next => cases selected

theorem Registry.local_select (r : Registry) (kind : CallKind) (name : String) (values : List Value) :
    Local (r.select kind name values) := by
  unfold select
  dsimp only
  split
  · exact .ok _
  · split
    · split
      · exact .error rfl
      · exact .ok _
    · exact .error rfl

/-- Where the run fails, the cause is one of these. -/
def Run.FailsBy (p : EvalError → Prop) (m : Run α) : Prop := ∀ c, m.result = .error c → p c

/-- Causes that may be any but the depth limit, and that custom functions pass on. -/
structure Causes (p : EvalError → Prop) : Prop where
  plain : ∀ c, c.mentionsLimit = false → p c
  passed : ∀ name c, p c → p (c.inCustomFunction name)

theorem EvalError.mentionsLimit_inCustomFunction (name : String) (c : EvalError) :
    (c.inCustomFunction name).mentionsLimit = c.mentionsLimit := by
  cases c <;> rfl

theorem Causes.other : Causes fun c => c.mentionsLimit = false where
  plain _ other := other
  passed name c other := (c.mentionsLimit_inCustomFunction name).trans other

theorem Causes.limit (limit : Nat) :
    Causes fun c => c = .depthLimitExceeded limit ∨ c.mentionsLimit = false where
  plain _ other := .inr other
  passed name c := by
    rintro (rfl | other)
    · exact .inl rfl
    · exact .inr ((c.mentionsLimit_inCustomFunction name).trans other)

namespace Run.FailsBy

variable {p : EvalError → Prop}

theorem pure (a : α) : FailsBy p (pure a : Run α) := fun _ failed => nomatch failed

theorem ofExcept (causes : Causes p) {x : Except EvalError α} (plain : Plain x) :
    FailsBy p (.ofExcept x : Run α) :=
  fun c failed => causes.plain c (plain c failed)

theorem fail (causes : Causes p) {c : EvalError} (other : c.mentionsLimit = false) :
    FailsBy p (.fail c : Run α) :=
  .ofExcept causes (.error other)

theorem bind {m : Run α} {next : α → Run β} (first : m.FailsBy p)
    (rest : ∀ a, m.result = .ok a → (next a).FailsBy p) : (m >>= next).FailsBy p := by
  cases outcome : m.result with
  | error c =>
      rw [Run.bind_of_error outcome]
      intro d failed
      cases failed
      exact first c outcome
  | ok a =>
      rw [Run.bind_of_ok outcome]
      exact rest a outcome

theorem rescue {m : Run α} {other : Unit → Run α} (first : m.FailsBy p) (second : (other ()).FailsBy p) :
    (m.rescue other).FailsBy p := by
  rcases Run.rescue_stands_or_follows m with stands | follows
  · rw [stands]
    exact first
  · rw [follows]
    exact second

end Run.FailsBy

theorem answer_failsBy {p : EvalError → Prop} (causes : Causes p) (s : Setting) (callee : String)
    (action : Action) (plain : action.Plain) : (answer s callee action).FailsBy p := by
  induction action with
  | done result => exact .ofExcept causes plain
  | read name next ih => exact ih _ (plain _)
  | warn message next ih => exact ih plain

theorem expectBoolean_failsBy {p : EvalError → Prop} (causes : Causes p) (operator : String) (v : Value) :
    (expectBoolean operator v).FailsBy p := by
  cases v
  case boolean b => exact .pure b
  all_goals exact .fail causes rfl

theorem expectReturned_failsBy {p : EvalError → Prop} (causes : Causes p) (f : CustomFunction) (v : Value) :
    (expectReturned f v).FailsBy p := by
  unfold expectReturned
  split
  · exact .pure _
  · exact .fail causes rfl

theorem length_of_evalAll {below : Expr → Run Value} {es : List Expr} {vs : List Value}
    (ok : (evalAll below es).result = .ok vs) : vs.length = es.length := by
  induction es generalizing vs with
  | nil =>
      cases ok
      rfl
  | cons e es ih =>
      change (below e >>= fun v => evalAll below es >>= fun vs => pure (v :: vs)).result = _ at ok
      cases head : (below e).result with
      | error c =>
          rw [Run.bind_of_error head] at ok
          cases ok
      | ok v =>
          rw [Run.bind_of_ok head] at ok
          cases tail : (evalAll below es).result with
          | error c =>
              rw [Run.bind_of_error tail] at ok
              cases ok
          | ok rest =>
              rw [Run.bind_of_ok tail] at ok
              cases ok
              rw [List.length_cons, List.length_cons, ih tail]

section Levels

variable {p : EvalError → Prop} (causes : Causes p) {below : Below} {s : Setting}

include causes

theorem evalCondition_failsBy (operator : String) {e : Expr} (tree : (below s e).FailsBy p) :
    (evalCondition (below s) operator e).FailsBy p :=
  tree.bind fun v _ => expectBoolean_failsBy causes operator v

omit causes in
theorem evalAll_failsBy (es : List Expr) (trees : ∀ e ∈ es, (below s e).FailsBy p) :
    (evalAll (below s) es).FailsBy p := by
  induction es with
  | nil => exact .pure _
  | cons e es ih =>
      obtain ⟨head, tail⟩ := List.forall_mem_cons.mp trees
      exact head.bind fun v _ => (ih tail).bind fun vs _ => .pure _

omit causes in
theorem evalParts_failsBy (ps : List TemplatePart) (trees : ∀ e, .span e ∈ ps → (below s e).FailsBy p) :
    (evalParts (below s) ps).FailsBy p := by
  induction ps with
  | nil => exact .pure _
  | cons part rest ih =>
      have later := ih fun e member => trees e (List.mem_cons_of_mem part member)
      cases part with
      | text content => exact later.bind fun _ _ => .pure _
      | span e => exact (trees e List.mem_cons_self).bind fun v _ => later.bind fun _ _ => .pure _

theorem evalBinary_failsBy (op : BinaryOp) {a b : Expr} (left : (below s a).FailsBy p)
    (right : (below s b).FailsBy p) : (evalBinary (below s) op a b).FailsBy p := by
  cases logical : op.deciding? with
  | none =>
      rw [evalBinary_strict logical]
      exact left.bind fun v _ => right.bind fun w _ => .ofExcept causes (.of_local (local_applyBinary op v w))
  | some d =>
      rw [evalBinary_logical logical]
      refine (left.bind fun v _ => expectBoolean_failsBy causes op.symbol v).bind fun c _ => ?_
      split
      · exact .pure _
      · exact (right.bind fun v _ => expectBoolean_failsBy causes op.symbol v).bind fun _ _ => .pure _

/-- The bodies of the functions fail by these causes, whatever their arguments are. -/
def BodiesFailBy (p : EvalError → Prop) (below : Below) (s : Setting) (fs : List Function) : Prop :=
  ∀ f ∈ fs, ∀ g, f.body = .custom g → ∀ e, g.body.meaning = .tree e →
    ∀ resolve, (below { s with resolve } e).FailsBy p

theorem callFunction_failsBy (overlooks : s.functions.OverlooksLimit) (kind : CallKind) (name : String)
    (values : List Value)
    (bodies : BodiesFailBy p below s (s.functions.candidates kind name values.length)) :
    (callFunction below s kind name values).FailsBy p := by
  cases selected : s.functions.select kind name values with
  | error c =>
      rw [callFunction_unselected selected]
      exact .fail causes (c.mentionsLimit_of_isLocal (s.functions.local_select kind name values c selected))
  | ok f =>
      have candidate := Registry.mem_candidates_of_select selected
      cases checked : f.checkArgs values with
      | error c =>
          rw [callFunction_mistyped selected checked]
          exact .fail causes rfl
      | ok args =>
          rw [callFunction_checked selected checked]
          cases body : f.body with
          | native native =>
              have listed := (List.mem_filter.mp candidate).1
              have plain := (overlooks kind name f listed native body).plain s.callSite args
              exact answer_failsBy causes s f.name _ plain
          | custom g =>
              cases meaning : g.body.meaning with
              | constant v =>
                  simp only [callCustom_constant meaning]
                  exact expectReturned_failsBy causes g v
              | tree e =>
                  simp only [callCustom_tree meaning]
                  refine Run.FailsBy.bind (fun c failed => ?_) fun v _ => expectReturned_failsBy causes g v
                  have known := bodies f candidate g body e meaning (.ofTable (g.bindings args))
                  change (below _ e).result.mapError (EvalError.inCustomFunction g.name) = .error c at failed
                  cases outcome : (below { s with resolve := .ofTable (g.bindings args) } e).result with
                  | ok v =>
                      rw [outcome] at failed
                      cases failed
                  | error cause =>
                      rw [outcome] at failed
                      cases failed
                      exact causes.passed g.name cause (known cause outcome)

theorem evalNode_failsBy (overlooks : s.functions.OverlooksLimit) (e : Expr)
    (trees : ∀ child ∈ e.children, (below s child).FailsBy p)
    (bodies : BodiesFailBy p below s (e.callees s.functions)) : (evalNode below s e).FailsBy p := by
  cases e with
  | integer i => exact .pure _
  | number x => exact .pure _
  | string text => exact .pure _
  | boolean b => exact .pure _
  | «variable» name =>
      refine Run.FailsBy.bind (fun c failed => nomatch failed) fun found _ => ?_
      cases found with
      | none => exact .fail causes rfl
      | some v => exact .pure v
  | unary op operand =>
      exact (trees operand (by simp [Expr.children])).bind fun v _ =>
        .ofExcept causes (.of_local (local_applyUnary op v))
  | binary op a b =>
      exact evalBinary_failsBy causes op (trees a (by simp [Expr.children]))
        (trees b (by simp [Expr.children]))
  | ternary condition a b =>
      refine (evalCondition_failsBy causes "?:" (trees condition (by simp [Expr.children]))).bind
        fun c _ => ?_
      cases c with
      | true => exact trees a (by simp [Expr.children])
      | false => exact trees b (by simp [Expr.children])
  | rescue a b =>
      exact (trees a (by simp [Expr.children])).rescue (trees b (by simp [Expr.children]))
  | call name args =>
      refine (evalAll_failsBy args trees).bind fun values ok => ?_
      refine callFunction_failsBy causes overlooks .function name values ?_
      rw [length_of_evalAll ok]
      exact bodies
  | method receiver name args =>
      rw [evalNode_method]
      refine (evalAll_failsBy (receiver :: args) trees).bind fun values ok => ?_
      refine callFunction_failsBy causes overlooks .method name values ?_
      rw [length_of_evalAll ok]
      exact bodies
  | index target key =>
      exact (trees target (by simp [Expr.children])).bind fun v _ =>
        (trees key (by simp [Expr.children])).bind fun w _ =>
        .ofExcept causes (.of_local (local_applyIndex v w))
  | template parts =>
      refine (evalParts_failsBy parts fun e member => trees e ?_).bind fun _ _ => .pure _
      exact List.mem_filterMap.mpr ⟨.span e, member, rfl⟩

end Levels

end CardExpr
