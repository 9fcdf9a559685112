import CardExpr.Proofs.Evaluation.Semantics

/-!
The evaluator and the big-step relation agree: with a limit, it comes to the outcome of the relation or is
cut off, and with a limit as high as the evaluation nests it is not cut off.
-/

namespace CardExpr

variable {α β : Type}

/-- Runs under every limit to the depth that come to `r` where `n` levels are allowed, and are cut off
where fewer are. -/
structure Limited (limit : Nat) (m : Nat → Run α) (r : Run α) (n : Nat) : Prop where
  enough : ∀ d, n ≤ d → m d = r
  short : ∀ d, d < n → (m d).result = .error (.depthLimitExceeded limit)

namespace Limited

variable {limit : Nat}

theorem const (r : Run α) : Limited limit (fun _ => r) r 0 :=
  ⟨fun _ _ => rfl, fun d below => absurd below (Nat.not_lt_zero d)⟩

theorem andThen {m : Nat → Run α} {r : Run α} {n : Nat} (first : Limited limit m r n)
    (next : α → Run β) : Limited limit (fun d => m d >>= next) (r >>= next) n where
  enough d le := by rw [first.enough d le]
  short d lt := by
    rw [Run.bind_of_error (first.short d lt)]
    rfl

theorem bind {m : Nat → Run α} {r : Run α} {n : Nat} {next : Nat → α → Run β} {a : α} {q : Run β}
    {k : Nat} (first : Limited limit m r n) (ok : r.result = .ok a)
    (rest : Limited limit (fun d => next d a) q k) :
    Limited limit (fun d => m d >>= next d) (r.followedBy q) (max n k) where
  enough d le := by
    rw [first.enough d (Nat.le_trans (Nat.le_max_left n k) le), Run.bind_of_ok ok,
      rest.enough d (Nat.le_trans (Nat.le_max_right n k) le)]
  short d lt := by
    by_cases enough : n ≤ d
    · have shortRest : d < k := by omega
      rw [first.enough d enough, Run.bind_of_ok ok]
      exact rest.short d shortRest
    · rw [Run.bind_of_error (first.short d (Nat.lt_of_not_le enough))]
      rfl

theorem bind_fails {m : Nat → Run α} {r : Run α} {n : Nat} {c : EvalError} (first : Limited limit m r n)
    (failed : r.result = .error c) (next : Nat → α → Run β) :
    Limited limit (fun d => m d >>= next d) (r.stopped c) n where
  enough d le := by rw [first.enough d le, Run.bind_of_error failed]
  short d lt := by
    rw [Run.bind_of_error (first.short d lt)]
    rfl

theorem rescue {m other : Nat → Run α} {r q : Run α} {n k : Nat} (first : Limited limit m r n)
    (caught : r.isCaught = true) (second : Limited limit other q k) :
    Limited limit (fun d => (m d).rescue fun _ => other d) (r.followedBy q) (max n k) where
  enough d le := by
    rw [first.enough d (Nat.le_trans (Nat.le_max_left n k) le), Run.rescue_of_caught caught,
      second.enough d (Nat.le_trans (Nat.le_max_right n k) le)]
  short d lt := by
    by_cases enough : n ≤ d
    · have shortSecond : d < k := by omega
      rw [first.enough d enough, Run.rescue_of_caught caught]
      exact second.short d shortSecond
    · have cut := first.short d (Nat.lt_of_not_le enough)
      rw [Run.rescue_of_not_caught (by unfold Run.isCaught; rw [cut])]
      exact cut

theorem stands {m other : Nat → Run α} {r : Run α} {n : Nat} (first : Limited limit m r n)
    (stands : r.isCaught = false) :
    Limited limit (fun d => (m d).rescue fun _ => other d) r n where
  enough d le := by rw [first.enough d le, Run.rescue_of_not_caught stands]
  short d lt := by
    have cut := first.short d lt
    rw [Run.rescue_of_not_caught (by unfold Run.isCaught; rw [cut])]
    exact cut

/-- The limit is no fault of a custom function, and what its body reads is its own concern. -/
theorem inCustomFunction {m : Nat → Run α} {r : Run α} {n : Nat} (first : Limited limit m r n)
    (name : String) :
    Limited limit (fun d => (m d).hideReads.mapError (EvalError.inCustomFunction name))
      (r.hideReads.mapError (EvalError.inCustomFunction name)) n where
  enough d le := by rw [first.enough d le]
  short d lt := by
    show (m d).result.mapError _ = _
    rw [first.short d lt]
    rfl

theorem level {s : Setting} {e : Expr} {r : Run Value} {n : Nat}
    (node : Limited s.config.maxDepth (fun d => evalNode (eval d) s e) r n) :
    Limited s.config.maxDepth (fun d => eval d s e) r (n + 1) where
  enough d le := by
    obtain ⟨d, rfl⟩ := Nat.exists_eq_add_of_lt le
    exact node.enough _ (by omega)
  short d lt := by
    cases d with
    | zero => rfl
    | succ d => exact node.short d (Nat.lt_of_succ_lt_succ lt)

end Limited

/-- Under a limit, an evaluation that nests no deeper comes to the outcome of the relation, and one that
nests deeper is cut off, whatever rescues and calls it stands in. -/
theorem Evaluates.limited {s : Setting} {t : Task α} {r : Run α} {n : Nat} (evaluates : Evaluates s t r n) :
    Limited s.config.maxDepth (fun d => t.run d s) r n := by
  induction evaluates with
  | integer => exact (Limited.const _).level
  | number => exact (Limited.const _).level
  | string => exact (Limited.const _).level
  | boolean => exact (Limited.const _).level
  | @bound s name x found =>
      refine Limited.level (n := 0) ⟨fun d _ => ?_, fun d lt => absurd lt (Nat.not_lt_zero d)⟩
      show (readVariable s name >>= _) = _
      simp [readVariable, found, bind, Run.bind, Run.followedBy, pure]
  | @unbound s name missing =>
      refine Limited.level (n := 0) ⟨fun d _ => ?_, fun d lt => absurd lt (Nat.not_lt_zero d)⟩
      show (readVariable s name >>= _) = _
      simp [readVariable, missing, bind, Run.bind, Run.followedBy, Run.fail]
  | unary operand ih => exact (ih.andThen _).level
  | binary strict left ok right ihLeft ihRight =>
      refine Limited.level ?_
      simp only [evalNode, evalBinary_strict strict]
      exact ihLeft.bind ok (ihRight.andThen _)
  | binary_fails strict left failed ih =>
      refine Limited.level ?_
      simp only [evalNode, evalBinary_strict strict]
      exact ih.bind_fails failed _
  | @decided s op a b r d n logical left ok ih =>
      refine Limited.level ?_
      simp only [evalNode, evalBinary_logical logical]
      rw [← Nat.max_zero n]
      refine (ih.andThen _).bind ok ?_
      simp only [if_true]
      exact .const _
  | @undecided s op a b r d n q m logical left ok right ihLeft ihRight =>
      refine Limited.level ?_
      simp only [evalNode, evalBinary_logical logical]
      refine (ihLeft.andThen _).bind ok ?_
      have other : (!d) ≠ d := by cases d <;> decide
      simp only [if_neg other]
      exact (ihRight.andThen _).andThen _
  | undecidable logical left failed ih =>
      refine Limited.level ?_
      simp only [evalNode, evalBinary_logical logical]
      exact (ih.andThen _).bind_fails failed _
  | ternary condition ok branch ihCondition ihBranch =>
      refine ((ihCondition.andThen _).bind ok ?_).level
      refine (congrArg (fun m => Limited _ m _ _) (funext fun d => ?_)).mp ihBranch
      split <;> rfl
  | ternary_fails condition failed ih => exact ((ih.andThen _).bind_fails failed _).level
  | stands operand stands ih => exact (ih.stands stands).level
  | rescued operand caught fallback ihOperand ihFallback =>
      exact (ihOperand.rescue caught ihFallback).level
  | function args ok callee ihArgs ihCallee => exact (ihArgs.bind ok ihCallee).level
  | function_fails args failed ih => exact (ih.bind_fails failed _).level
  | method args ok callee ihArgs ihCallee =>
      refine Limited.level ?_
      simp only [evalNode_method]
      exact ihArgs.bind ok ihCallee
  | method_fails args failed ih =>
      refine Limited.level ?_
      simp only [evalNode_method]
      exact ih.bind_fails failed _
  | index target ok key ihTarget ihKey => exact (ihTarget.bind ok (ihKey.andThen _)).level
  | index_fails target failed ih => exact (ih.bind_fails failed _).level
  | template parts ih => exact (ih.andThen _).level
  | nil => exact .const _
  | cons head ok tail ihHead ihTail => exact ihHead.bind ok (ihTail.andThen _)
  | cons_fails head failed ih => exact ih.bind_fails failed _
  | noParts => exact .const _
  | text rest ih => exact ih.andThen _
  | span here ok rest ihHere ihRest => exact ihHere.bind ok (ihRest.andThen _)
  | span_fails here failed ih => exact ih.bind_fails failed _
  | unselected refused =>
      simp only [Task.run, callFunction_unselected refused]
      exact .const _
  | mistyped selected refused =>
      simp only [Task.run, callFunction_mistyped selected refused]
      exact .const _
  | native selected checked native =>
      simp only [Task.run, callFunction_checked selected checked, native]
      exact .const _
  | fixed selected checked custom fixed =>
      simp only [Task.run, callFunction_checked selected checked, custom, callCustom_constant fixed]
      exact .const _
  | custom selected checked custom tree body ih =>
      simp only [Task.run, callFunction_checked selected checked, custom, callCustom_tree tree]
      exact (ih.inCustomFunction _).andThen _

/-- The run was cut off, or what is said of its outcome holds for at most `d` levels. -/
def Settles (limit d : Nat) (m : Run α) (holds : Nat → Prop) : Prop :=
  m.result = .error (.depthLimitExceeded limit) ∨ ∃ n ≤ d, holds n

namespace Settles

variable {limit d : Nat} {m : Run α} {holds : Nat → Prop}

theorem of_zero (holds₀ : holds 0) : Settles limit d m holds := .inr ⟨0, Nat.zero_le d, holds₀⟩

theorem imp {others : Nat → Prop} (settles : Settles limit d m holds) (more : ∀ n, holds n → others n) :
    Settles limit d m others :=
  settles.imp_right fun ⟨n, le, known⟩ => ⟨n, le, more n known⟩

theorem andThen {next : α → Run β} {others : Nat → Prop} (first : Settles limit d m holds)
    (more : ∀ n, holds n → others n) : Settles limit d (m >>= next) others := by
  rcases first with cut | ⟨n, le, known⟩
  · rw [Run.bind_of_error cut]
    exact .inl rfl
  · exact .inr ⟨n, le, more n known⟩

theorem bind {next : α → Run β} {J : Run β → Nat → Prop} (first : Settles limit d m holds)
    (fails : ∀ c, m.result = .error c → ∀ n, holds n → J (m.stopped c) n)
    (goesOn : ∀ a, m.result = .ok a → ∀ n, holds n →
      Settles limit d (next a) fun k => J (m.followedBy (next a)) (max n k)) :
    Settles limit d (m >>= next) (J (m >>= next)) := by
  rcases first with cut | ⟨n, le, known⟩
  · rw [Run.bind_of_error cut]
    exact .inl rfl
  · cases outcome : m.result with
    | error c =>
        rw [Run.bind_of_error outcome]
        exact .inr ⟨n, le, fails c outcome n known⟩
    | ok a =>
        rw [Run.bind_of_ok outcome]
        rcases goesOn a outcome n known with cut | ⟨k, leRest, both⟩
        · exact .inl cut
        · exact .inr ⟨max n k, Nat.max_le.mpr ⟨le, leRest⟩, both⟩

theorem level {s : Setting} {e : Expr}
    (node : Settles s.config.maxDepth d (evalNode (eval d) s e) fun n =>
      Evaluates s (.tree e) (evalNode (eval d) s e) (n + 1)) :
    Settles s.config.maxDepth (d + 1) (eval (d + 1) s e)
      (Evaluates s (.tree e) (eval (d + 1) s e)) :=
  node.imp_right fun ⟨n, le, evaluates⟩ => ⟨n + 1, Nat.succ_le_succ le, evaluates⟩

end Settles

section Settling

variable {d : Nat}
  (trees : ∀ s e, Settles s.config.maxDepth d (eval d s e) (Evaluates s (.tree e) (eval d s e)))

include trees

theorem settles_all (s : Setting) (es : List Expr) :
    Settles s.config.maxDepth d (evalAll (eval d s) es) (Evaluates s (.all es) (evalAll (eval d s) es)) := by
  induction es with
  | nil => exact .of_zero .nil
  | cons e es ih =>
      refine (trees s e).bind (fun c failed n head => .cons_fails head failed) fun v ok n head => ?_
      exact ih.andThen fun k tail => .cons head ok tail

theorem settles_parts (s : Setting) (ps : List TemplatePart) :
    Settles s.config.maxDepth d (evalParts (eval d s) ps)
      (Evaluates s (.parts ps) (evalParts (eval d s) ps)) := by
  induction ps with
  | nil => exact .of_zero .noParts
  | cons part rest ih =>
      cases part with
      | text content => exact ih.andThen fun n rest => .text rest
      | span e =>
          refine (trees s e).bind (fun c failed n here => .span_fails here failed) fun v ok n here => ?_
          exact ih.andThen fun k rest => .span here ok rest

theorem settles_call (s : Setting) (kind : CallKind) (name : String) (values : List Value) :
    Settles s.config.maxDepth d (callFunction (eval d) s kind name values)
      (Evaluates s (.call kind name values) (callFunction (eval d) s kind name values)) := by
  cases selected : s.functions.select kind name values with
  | error c =>
      rw [callFunction_unselected selected]
      exact .of_zero (.unselected selected)
  | ok f =>
      cases checked : f.checkArgs values with
      | error c =>
          rw [callFunction_mistyped selected checked]
          exact .of_zero (.mistyped selected checked)
      | ok args =>
          rw [callFunction_checked selected checked]
          cases body : f.body with
          | native body' => exact .of_zero (.native selected checked body)
          | custom g =>
              cases meaning : g.body.meaning with
              | constant v =>
                  simp only [callCustom_constant meaning]
                  exact .of_zero (.fixed selected checked body meaning)
              | tree e =>
                  simp only [callCustom_tree meaning]
                  refine Settles.andThen ?_ fun n evaluates =>
                    .custom selected checked body meaning evaluates
                  refine (trees { s with resolve := .ofTable (g.bindings args) } e).imp_left fun cut => ?_
                  show (eval d _ e).result.mapError _ = _
                  rw [cut]
                  rfl

theorem settles_node (s : Setting) (e : Expr) :
    Settles s.config.maxDepth d (evalNode (eval d) s e) fun n =>
      Evaluates s (.tree e) (evalNode (eval d) s e) (n + 1) := by
  cases e with
  | integer i => exact .of_zero .integer
  | number x => exact .of_zero .number
  | string text => exact .of_zero .string
  | boolean b => exact .of_zero .boolean
  | «variable» name =>
      refine .of_zero ?_
      show Evaluates s _ (readVariable s name >>= _) 1
      cases found : s.resolve name with
      | none => simpa [readVariable, found, bind, Run.bind, Run.followedBy, Run.fail] using .unbound found
      | some x => simpa [readVariable, found, bind, Run.bind, Run.followedBy, pure] using .bound found
  | unary op operand => exact (trees s operand).andThen fun n operand => .unary operand
  | binary op a b =>
      cases logical : op.deciding? with
      | none =>
          simp only [evalNode, evalBinary_strict logical]
          refine (trees s a).bind (J := fun r n => Evaluates s (.tree (.binary op a b)) r (n + 1))
            (fun c failed n left => .binary_fails logical left failed) fun v ok n left => ?_
          exact (trees s b).andThen fun k right => .binary logical left ok right
      | some decisive =>
          simp only [evalNode, evalBinary_logical logical]
          refine Settles.bind (J := fun r n => Evaluates s (.tree (.binary op a b)) r (n + 1))
            ((trees s a).andThen fun n left => left) (fun c failed n left => .undecidable logical left failed)
            fun c ok n left => ?_
          by_cases decides : c = decisive
          · subst decides
            simp only [if_true]
            refine .of_zero ?_
            rw [Nat.max_zero]
            exact .decided logical left ok
          · have open' : c = !decisive := by cases c <;> cases decisive <;> simp at decides ⊢
            subst open'
            simp only [if_neg decides]
            exact ((trees s b).andThen fun k right => right).andThen fun k right =>
              .undecided logical left ok right
  | ternary condition a b =>
      refine Settles.bind (J := fun r n => Evaluates s (.tree (.ternary condition a b)) r (n + 1))
        ((trees s condition).andThen fun n asked => asked)
        (fun c failed n asked => .ternary_fails asked failed) fun c ok n asked => ?_
      cases c with
      | true => exact (trees s a).imp fun k branch => .ternary asked ok branch
      | false => exact (trees s b).imp fun k branch => .ternary asked ok branch
  | rescue a b =>
      show Settles _ d ((eval d s a).rescue fun _ => eval d s b) fun n =>
        Evaluates s _ ((eval d s a).rescue fun _ => eval d s b) (n + 1)
      cases caught : (eval d s a).isCaught with
      | false =>
          rw [Run.rescue_of_not_caught caught]
          exact (trees s a).imp fun n operand => .stands operand caught
      | true =>
          rw [Run.rescue_of_caught caught]
          rcases trees s a with cut | ⟨n, le, operand⟩
          · rw [Run.isCaught, cut] at caught
            cases caught
          · rcases trees s b with cut | ⟨k, leFallback, fallback⟩
            · exact .inl cut
            · exact .inr ⟨max n k, Nat.max_le.mpr ⟨le, leFallback⟩, .rescued operand caught fallback⟩
  | call name es =>
      refine (settles_all trees s es).bind
        (J := fun r n => Evaluates s (.tree (.call name es)) r (n + 1))
        (fun c failed n args => .function_fails args failed) fun values ok n args => ?_
      exact (settles_call trees s .function name values).imp fun k callee => .function args ok callee
  | method receiver name es =>
      simp only [evalNode_method]
      refine (settles_all trees s (receiver :: es)).bind
        (J := fun r n => Evaluates s (.tree (.method receiver name es)) r (n + 1))
        (fun c failed n args => .method_fails args failed) fun values ok n args => ?_
      exact (settles_call trees s .method name values).imp fun k callee => .method args ok callee
  | index target key =>
      refine (trees s target).bind (J := fun r n => Evaluates s (.tree (.index target key)) r (n + 1))
        (fun c failed n target => .index_fails target failed) fun v ok n target => ?_
      exact (trees s key).andThen fun k key => .index target ok key
  | template parts => exact (settles_parts trees s parts).andThen fun n parts => .template parts

end Settling

/-- The evaluator either is cut off or comes to an outcome of the relation. -/
theorem settles_tree (d : Nat) (s : Setting) (e : Expr) :
    Settles s.config.maxDepth d (eval d s e) (Evaluates s (.tree e) (eval d s e)) := by
  induction d generalizing s e with
  | zero => exact .inl rfl
  | succ d ih => exact (settles_node ih s e).level

end CardExpr
