import CardExpr.Proofs.Evaluation.ReadOrder
import CardExpr.Builtin.Registry
import CardExpr.Proofs.Evaluation.Semantics

/-!
An evaluator does what the runs of its trees do, one after another. After each tree it is as deep as it was
before it, whether the tree ends with a value or a failure.
-/

namespace CardExpr

variable {α β : Type}

namespace Evaluator

def collecting (evaluator : Evaluator) (r : Run α) : Evaluator :=
  { evaluator with
    reads :=
      if evaluator.tracks then r.reads.foldl (fun set read => insertOrdered VariableRead.before read set)
        evaluator.reads
      else evaluator.reads
    warnings := evaluator.warnings ++ r.warnings }

/-- The result of the run, and the evaluator once it has collected what the run notes. -/
def ending (evaluator : Evaluator) (r : Run α) : EStateM.Result EvalError Evaluator α :=
  match r.result with
  | .ok a => .ok a (evaluator.collecting r)
  | .error e => .error e (evaluator.collecting r)

theorem collecting_silent (evaluator : Evaluator) {r : Run α} (reads : r.reads = [])
    (warnings : r.warnings = []) :
    evaluator.collecting r = evaluator := by
  simp [collecting, reads, warnings]

theorem collecting_followedBy (evaluator : Evaluator) (m : Run α) (r : Run β) :
    evaluator.collecting (m.followedBy r) = (evaluator.collecting m).collecting r := by
  cases tracked : evaluator.tracks <;> simp [collecting, Run.followedBy, tracked]

theorem ending_followedBy (evaluator : Evaluator) (m : Run α) (r : Run β) :
    evaluator.ending (m.followedBy r) = (evaluator.collecting m).ending r := by
  unfold ending
  rw [collecting_followedBy]
  rfl

/-- In the setting and at the depth, the evaluator does what the run does. -/
def Performs (x : Evaluating α) (s : Setting) (depth : Nat) (r : Run α) : Prop :=
  ∀ evaluator : Evaluator, evaluator.setting = s → evaluator.depth = depth → x evaluator = evaluator.ending r

namespace Performs

variable {s : Setting} {depth : Nat} {x y : Evaluating α} {m q : Run α}

theorem pure (a : α) : Performs (Pure.pure a) s depth (Pure.pure a) := fun evaluator _ _ =>
  congrArg (EStateM.Result.ok a) (evaluator.collecting_silent (r := (Pure.pure a : Run α)) rfl rfl).symm

theorem throw (e : EvalError) : Performs (MonadExcept.throw e : Evaluating α) s depth (.fail e) :=
  fun evaluator _ _ =>
    congrArg (EStateM.Result.error e) (evaluator.collecting_silent (r := (.fail e : Run α)) rfl rfl).symm

theorem ofExcept (result : Except EvalError α) : Performs (Evaluator.ofExcept result)
    s depth (.ofExcept result) := by
  cases result with
  | ok a => exact .pure a
  | error e => exact .throw e

theorem bind {f : α → Evaluating β} {next : α → Run β} (first : Performs x s depth m)
    (second : ∀ a, Performs (f a) s depth (next a)) : Performs (x >>= f) s depth (m >>= next) := by
  intro evaluator setting level
  show EStateM.bind x f evaluator = _
  unfold EStateM.bind
  rw [first evaluator setting level]
  cases outcome : m.result with
  | ok a =>
      rw [Run.bind_of_ok outcome, ending_followedBy, ← second a (evaluator.collecting m) setting level]
      simp only [ending, outcome]
  | error e =>
      rw [Run.bind_of_error outcome]
      simp only [ending, outcome]
      rfl

theorem rescue (first : Performs x s depth m) (second : Performs y s depth q) :
    Performs (tryCatch x fun e =>
      match e with
      | .depthLimitExceeded limit => MonadExcept.throw (.depthLimitExceeded limit)
      | _ => y) s depth (m.rescue fun _ => q) := by
  intro evaluator setting level
  show EStateM.tryCatch x _ evaluator = _
  unfold EStateM.tryCatch
  rw [first evaluator setting level]
  cases caught : m.isCaught with
  | true =>
      rw [Run.rescue_of_caught caught, ending_followedBy, ← second (evaluator.collecting m) setting level]
      unfold Run.isCaught at caught
      unfold ending
      cases outcome : m.result with
      | ok a => simp [outcome] at caught
      | error e =>
          cases e
          case depthLimitExceeded limit => simp [outcome] at caught
          all_goals rfl
  | false =>
      rw [Run.rescue_of_not_caught caught]
      unfold Run.isCaught at caught
      unfold ending
      cases outcome : m.result with
      | ok a => rfl
      | error e =>
          cases e
          case depthLimitExceeded limit => rfl
          all_goals simp [outcome] at caught

theorem mapError (f : EvalError → EvalError) (first : Performs x s depth m) :
    Performs (tryCatch x fun e => MonadExcept.throw (f e)) s depth (m.mapError f) := by
  intro evaluator setting level
  show EStateM.tryCatch x _ evaluator = _
  unfold EStateM.tryCatch
  rw [first evaluator setting level]
  unfold ending Run.mapError
  cases m.result <;> rfl

theorem lookUp (name : String) : Performs (Evaluator.lookUp name) s depth (readVariable s name) := by
  rintro ⟨_, tracks, _⟩ rfl -
  cases tracks <;> exact congrArg (EStateM.Result.ok _) (by simp [record, collecting, readVariable])

theorem warn (warning : Warning) : Performs (Evaluator.warn warning) s depth ⟨.ok (), [], [warning]⟩ := by
  intro evaluator _ _
  show EStateM.Result.ok _ _ = EStateM.Result.ok _ _
  simp [collecting]

theorem answer (callee : String) (action : Action) :
    Performs (Evaluator.answer callee action) s depth (CardExpr.answer s callee action) := by
  induction action with
  | done result => exact .ofExcept result
  | read name next ih => exact .bind (.lookUp name) ih
  | warn message next ih => exact .bind (.warn ⟨callee, message⟩) fun _ => ih

variable {below : Expr → Evaluating Value} {reference : Expr → Run Value}

theorem evalCondition (known : ∀ e, Performs (below e) s depth (reference e)) (operator : String) (e : Expr) :
    Performs (Evaluator.evalCondition below operator e)
    s depth (CardExpr.evalCondition reference operator e) := by
  refine .bind (known e) fun v => ?_
  cases v with
  | boolean b => exact .pure b
  | _ => exact .throw _

theorem evalAll (known : ∀ e, Performs (below e) s depth (reference e)) (es : List Expr) :
    Performs (Evaluator.evalAll below es) s depth (CardExpr.evalAll reference es) := by
  induction es with
  | nil => exact .pure []
  | cons e es ih => exact .bind (known e) fun v => .bind ih fun vs => .pure (v :: vs)

theorem evalParts (known : ∀ e, Performs (below e) s depth (reference e)) (parts : List TemplatePart)
    (written : String) :
    Performs (Evaluator.evalParts below written parts) s depth
      (CardExpr.evalParts reference parts >>= fun text => Pure.pure (written ++ text)) := by
  induction parts generalizing written with
  | nil =>
      rw [CardExpr.evalParts, Run.pure_bind, String.append_empty]
      exact .pure written
  | cons part rest ih =>
      cases part with
      | text content =>
          have same := ih (written ++ content)
          simp only [CardExpr.evalParts, Run.bind_assoc, Run.pure_bind, ← String.append_assoc]
          exact same
      | span e =>
          simp only [CardExpr.evalParts, Run.bind_assoc, Run.pure_bind, ← String.append_assoc]
          exact .bind (known e) fun v => ih (written ++ v.text)

/-- A reference for trees in any setting of one configuration, as the bodies of custom functions need it. -/
abbrev Refines (below : Expr → Evaluating Value) (reference : Below) (config : Config) (depth : Nat) : Prop :=
  ∀ s : Setting, s.config = config → ∀ e, Performs (below e) s depth (reference s e)

variable {reference : Below}

theorem evalBody (known : Refines below reference s.config depth) (f : CustomFunction) (args : Args) :
    Performs (Evaluator.evalBody below f args) s depth (CardExpr.evalBody reference s f args) := by
  unfold Evaluator.evalBody CardExpr.evalBody
  cases f.body.meaning with
  | constant v => exact .pure v
  | tree body =>
      rintro evaluator rfl rfl
      let bound : Setting := { evaluator.setting with resolve := .ofTable (f.bindings args) }
      let inner : Evaluator := evaluator.inner (.ofTable (f.bindings args))
      have performed : below body inner = inner.ending (reference bound body) :=
        known bound rfl body inner rfl rfl
      dsimp only
      rw [performed]
      unfold ending Run.hideReads
      dsimp only
      cases (reference bound body).result <;> simp [collecting, taking, inner, Evaluator.inner, bound]

theorem callCustom (known : Refines below reference s.config depth) (f : CustomFunction) (args : Args) :
    Performs (Evaluator.callCustom below f args) s depth (CardExpr.callCustom reference s f args) := by
  refine .bind (.mapError _ (evalBody known f args)) fun v => ?_
  unfold expectReturned
  cases v.conform? f.returnType with
  | some w => exact .pure w
  | none => exact .throw _

theorem callFunction (known : Refines below reference s.config depth) (kind : CallKind) (name : String)
    (values : List Value) :
    Performs (Evaluator.callFunction below kind name values) s depth
      (CardExpr.callFunction reference s kind name values) := by
  rintro evaluator rfl rfl
  refine Performs.bind (.ofExcept (evaluator.setting.functions.select kind name values)) (fun f => ?_)
    evaluator rfl rfl
  refine .bind (.ofExcept _) fun args => ?_
  cases f.body with
  | native body => exact .answer f.name _
  | custom custom => exact .callCustom known custom args

theorem evalBinary (known : Refines below reference s.config depth) (op : BinaryOp) (left right : Expr) :
    Performs (Evaluator.evalBinary below op left right) s depth
      (CardExpr.evalBinary (reference s) op left right) := by
  have condition (e : Expr) := evalCondition (known s rfl) op.symbol e
  have decides (e : Expr) :
    Performs (do Pure.pure (Value.boolean (← Evaluator.evalCondition below op.symbol e))) s depth
      (CardExpr.evalCondition (reference s) op.symbol e >>= fun b => Pure.pure (Value.boolean b)) :=
    .bind (condition e) fun b => .pure (Value.boolean b)
  cases op
  case and =>
    refine .bind (condition left) fun b => ?_
    cases b with
    | true => exact decides right
    | false => exact .pure _
  case or =>
    refine .bind (condition left) fun b => ?_
    cases b with
    | true => exact .pure _
    | false => exact decides right
  all_goals exact .bind (known s rfl left) fun a => .bind (known s rfl right) fun b => .ofExcept _

theorem evalNode (known : Refines below reference s.config depth) (e : Expr) :
    Performs (Evaluator.evalNode below e) s depth (CardExpr.evalNode reference s e) := by
  have trees := known s rfl
  cases e with
  | integer n => exact .pure _
  | number x => exact .pure _
  | string t => exact .pure _
  | boolean b => exact .pure _
  | «variable» name =>
      refine .bind (.lookUp name) fun found => ?_
      cases found with
      | some v => exact .pure v
      | none => exact .throw _
  | unary op operand => exact .bind (trees operand) fun v => .ofExcept _
  | binary op left right => exact .evalBinary known op left right
  | ternary condition thenBranch elseBranch =>
      refine .bind (.evalCondition trees "?:" condition) fun b => ?_
      cases b with
      | true => exact trees thenBranch
      | false => exact trees elseBranch
  | rescue operand fallback => exact .rescue (trees operand) (trees fallback)
  | call name args =>
      exact .bind (.evalAll trees args) fun values => .callFunction known .function name values
  | method receiver name args =>
      exact .bind (trees receiver) fun v => .bind (.evalAll trees args) fun vs =>
        .callFunction known .method name (v :: vs)
  | index target key => exact .bind (trees target) fun t => .bind (trees key) fun k => .ofExcept _
  | template parts =>
      have same : CardExpr.evalNode reference s (.template parts) =
          CardExpr.evalParts (reference s) parts >>= (fun text => Pure.pure ("" ++ text)) >>= fun text =>
            Pure.pure (Value.string text) := by
        simp only [Run.bind_assoc, Run.pure_bind, String.empty_append]
        rfl
      rw [same]
      exact .bind (.evalParts trees parts "") fun text => .pure (Value.string text)

theorem within (inside : depth < s.config.maxDepth) (tree : Performs x s (depth + 1) m) :
    Performs (Evaluator.within x) s depth m := by
  rintro evaluator rfl rfl
  unfold Evaluator.within
  rw [if_neg (Nat.not_le.mpr inside), tree { evaluator with depth := evaluator.depth + 1 } rfl rfl]
  unfold ending
  cases m.result <;> rfl

/-- By induction on the room, which is what the depth leaves of the limit. -/
theorem evalTree (room : Nat) (s : Setting) (depth : Nat) (left : s.config.maxDepth - depth = room)
    (e : Expr) :
    Performs (Evaluator.evalTree room e) s depth (CardExpr.eval room s e) := by
  induction room generalizing s depth e with
  | zero =>
      rintro evaluator rfl rfl
      exact Performs.throw _ evaluator rfl rfl
  | succ room ih =>
      refine .within (by omega) (.evalNode (fun t same e => ih t (depth + 1) ?_ e) e)
      rw [same]
      omega

end Performs

/-- An evaluator that is within no tree evaluates one like a run of its own, and is within none again. -/
theorem eval_eq (evaluator : Evaluator) (outside : evaluator.depth = 0) (e : Expr) :
    evaluator.eval e =
      ((evaluator.setting.outcome e).result, evaluator.collecting (evaluator.setting.outcome e)) := by
  have performs : Evaluator.evalTree evaluator.setting.config.maxDepth e evaluator =
      evaluator.ending (evaluator.setting.outcome e) :=
    Performs.evalTree _ evaluator.setting 0 (Nat.sub_zero _) e evaluator rfl outside
  unfold Evaluator.eval
  rw [outside, Nat.sub_zero, performs]
  unfold ending
  cases (evaluator.setting.outcome e).result <;> rfl

def evalEach (evaluator : Evaluator) : List Expr → List (Except EvalError Value) × Evaluator
  | [] => ([], evaluator)
  | e :: es =>
    let (result, next) := evaluator.eval e
    let (results, last) := evalEach next es
    (result :: results, last)

def allNotes (runs : List (Run α)) : Run Unit := ⟨.ok (), runs.flatMap (·.reads), runs.flatMap (·.warnings)⟩

/-- By induction on the trees: the evaluator comes to each from outside all of them. -/
theorem evalEach_eq (evaluator : Evaluator) (outside : evaluator.depth = 0) (es : List Expr) :
    evaluator.evalEach es =
      (es.map fun e => (evaluator.setting.outcome e).result,
        evaluator.collecting (allNotes (es.map evaluator.setting.outcome))) := by
  induction es generalizing evaluator with
  | nil => exact congrArg (Prod.mk []) (evaluator.collecting_silent rfl rfl).symm
  | cons e es ih =>
      rw [evalEach, eval_eq evaluator outside]
      dsimp only
      rw [ih (evaluator.collecting (evaluator.setting.outcome e)) outside]
      exact congrArg (Prod.mk _) (evaluator.collecting_followedBy _ (allNotes _)).symm

end Evaluator

theorem Expression.parse_eq_ok {source : String} {config : Config} {e : Expression}
    (parses : Expression.parse source config = .ok e) :
    ∃ tree, CardExpr.parse source = .ok tree ∧ e = ⟨source, meaningOf tree⟩ := by
  unfold Expression.parse at parses
  split at parses
  · cases parses
  · cases read : CardExpr.parse source with
    | error c =>
        rw [read] at parses
        cases parses
    | ok tree =>
        rw [read] at parses
        exact ⟨tree, rfl, (Except.ok.inj parses).symm⟩

/-- Where there is room for one level, a text that stands for itself is what its tree evaluates to. -/
theorem evaluate_meaningOf (s : Setting) (limit : 1 ≤ s.config.maxDepth) (source : String) (tree : Expr) :
    evaluate s ⟨source, Expression.meaningOf tree⟩ =
      ⟨(s.outcome tree).result.mapError (⟨·, source⟩), .ofReads (s.outcome tree).reads,
       (s.outcome tree).warnings⟩ := by
  unfold evaluate Expression.meaningOf
  cases tree with
  | string text =>
      obtain ⟨depth, deep⟩ := Nat.exists_eq_add_of_le' limit
      unfold Setting.outcome
      rw [deep]
      rfl
  | _ => rfl

/-- An evaluator gives for each of the trees of some sources, one after another, what an evaluation of the
source alone gives, whether it is a fixed text, succeeds or fails, at the depth limit or otherwise. In the end
it has collected what the evaluations look up, if that is of concern, and all of their warnings in order. -/
theorem evaluator_likeAlone (s : Setting) (limit : 1 ≤ s.config.maxDepth) (tracks : Bool)
    (items : List (Expression × Expr))
    (parsed : ∀ item ∈ items, ∃ source config,
      Expression.parse source config = .ok item.1 ∧ parse source = .ok item.2) :
    ∃ results last, ({ setting := s, tracks := tracks } : Evaluator).evalEach (items.map (·.2)) =
      (results, last) ∧
      List.Forall₂ (fun item result => (evaluate s item.1).result = result.mapError (⟨·, item.1.source⟩))
      items results ∧
      last.depth = 0 ∧ last.finish =
        (if tracks then ReadSet.ofReads (items.flatMap fun item => (evaluate s item.1).reads) else [],
          items.flatMap fun item => (evaluate s item.1).warnings) := by
  have alone (item : Expression × Expr) (member : item ∈ items) :
      evaluate s item.1 =
        ⟨(s.outcome item.2).result.mapError (⟨·, item.1.source⟩), .ofReads (s.outcome item.2).reads,
          (s.outcome item.2).warnings⟩ := by
    obtain ⟨source, config, parses, reads⟩ := parsed item member
    obtain ⟨tree, same, means⟩ := Expression.parse_eq_ok parses
    cases same.symm.trans reads
    rw [means]
    exact evaluate_meaningOf s limit source item.2
  refine ⟨_, _, Evaluator.evalEach_eq _ rfl _, ?_, rfl, Prod.ext ?_ ?_⟩
  · rw [List.map_map, List.forall₂_map_right_iff, List.forall₂_same]
    exact fun item member => by rw [alone item member]; rfl
  · have reads : ReadSet.ofReads (items.flatMap fun item => (s.outcome item.2).reads) =
        ReadSet.ofReads (items.flatMap fun item => (evaluate s item.1).reads) := by
      refine ReadSet.ofReads_congr fun read => ?_
      simp only [List.mem_flatMap]
      refine exists_congr fun item => and_congr_right fun member => ?_
      rw [alone item member]
      exact (mem_ofReads _ read).symm
    rw [← reads]
    simp [Evaluator.finish, Evaluator.collecting, Evaluator.allNotes, List.flatMap_map,
      ReadSet.ofReads, orderedSet]
  · simp only [Evaluator.finish, Evaluator.collecting, Evaluator.allNotes, List.flatMap_map, List.nil_append]
    exact List.flatMap_congr fun item member => by rw [alone item member]

def parsedSources (sources : List String) : List (Expression × Expr) :=
  sources.filterMap fun source =>
    match Expression.parse source, parse source with
    | .ok e, .ok tree => some (e, tree)
    | _, _ => none

theorem parses_of_mem_parsedSources {sources : List String} {item : Expression × Expr}
    (member : item ∈ parsedSources sources) :
    ∃ source config, Expression.parse source config = .ok item.1 ∧ parse source = .ok item.2 := by
  obtain ⟨source, -, found⟩ := List.mem_filterMap.mp member
  split at found
  next e tree first second =>
    cases found
    exact ⟨source, {}, first, second⟩
  next => cases found

def shallow : Setting := ⟨.ofTable [], .builtins, { maxDepth := 3 }, .epoch⟩

/-- A fixed text, a missing variable, signs that are too deep, a sum and a getter with a fallback. -/
def mixedItems : List (Expression × Expr) :=
  parsedSources ["plain", "@\x7bx\x7d", "@\x7b---1\x7d", "@\x7b1 + 2\x7d", "@\x7bgetIntegerValue('y', 7)\x7d"]

def resultText : Except EvalError Value → String
  | .ok v => v.text
  | .error e => e.message

/-- Behind a failure for a missing variable and one at the depth limit, a sum and a getter still give what
they give alone. -/
theorem evaluator_likeAlone_of_failures :
    ∃ results last, ({ setting := shallow } : Evaluator).evalEach (mixedItems.map (·.2)) = (results, last) ∧
      mixedItems.map (·.1.isConstant) = [true, false, false, false, false] ∧
      results.map resultText =
        ["plain", (EvalError.undefinedVariable "x").message,
         (EvalError.depthLimitExceeded 3).message, "3", "7"] ∧
      List.Forall₂ (fun item result => (evaluate shallow item.1).result =
        result.mapError (⟨·, item.1.source⟩))
        mixedItems results ∧
      last.depth = 0 ∧ last.reads.map (·.name) = ["x", "y"] ∧ last.warnings.length = 1 ∧
      last.finish.2 = mixedItems.flatMap fun item => (evaluate shallow item.1).warnings := by
  obtain ⟨results, last, ran, alike, outside, collected⟩ :=
    evaluator_likeAlone shallow (by decide) true mixedItems fun item => parses_of_mem_parsedSources
  have evaluated :
      (fun run : List (Except EvalError Value) × Evaluator =>
        (mixedItems.map (·.1.isConstant), run.1.map resultText, run.2.reads.map (·.name),
          run.2.warnings.length))
        (({ setting := shallow } : Evaluator).evalEach (mixedItems.map (·.2))) =
      ([true, false, false, false, false],
        ["plain", (EvalError.undefinedVariable "x").message,
         (EvalError.depthLimitExceeded 3).message, "3", "7"],
        ["x", "y"], 1) := by
    decide +kernel
  rw [ran] at evaluated
  simp only [Prod.mk.injEq] at evaluated
  obtain ⟨constants, texts, names, warned⟩ := evaluated
  refine ⟨results, last, ran, constants, texts, alike, outside, names, warned, ?_⟩
  rw [collected]

end CardExpr
