import CardExpr.Proofs.Evaluation.Agreement
import CardExpr.Proofs.Evaluation.Failure

/-!
What the depth limit does to evaluations: it cuts off those that nest too deeply, and it changes none.
-/

namespace CardExpr

variable {α : Type}

def Setting.withLimit (s : Setting) (limit : Nat) : Setting :=
  { s with config := { s.config with maxDepth := limit } }

def Run.IsCutOff (m : Run α) (limit : Nat) : Prop := m.result = .error (.depthLimitExceeded limit)

theorem answer_congr (s t : Setting) (same : t.resolve = s.resolve) (callee : String) (action : Action) :
    answer t callee action = answer s callee action := by
  induction action with
  | done result => rfl
  | read name next ih => simp only [answer, same, ih]
  | warn message next ih => simp only [answer, ih]

/-- The relation has no use for the limit, and neither have functions that overlook it. -/
theorem Evaluates.withLimit {s : Setting} {t : Task α} {r : Run α} {n : Nat}
    (overlooks : s.functions.OverlooksLimit) (limit : Nat) (evaluates : Evaluates s t r n) :
    Evaluates (s.withLimit limit) t r n := by
  induction evaluates with
  | integer => exact .integer
  | number => exact .number
  | string => exact .string
  | boolean => exact .boolean
  | bound found => exact .bound found
  | unbound missing => exact .unbound missing
  | unary operand ih => exact .unary (ih overlooks)
  | binary strict left ok right ihLeft ihRight =>
      exact .binary strict (ihLeft overlooks) ok (ihRight overlooks)
  | binary_fails strict left failed ih => exact .binary_fails strict (ih overlooks) failed
  | decided logical left ok ih => exact .decided logical (ih overlooks) ok
  | undecided logical left ok right ihLeft ihRight =>
      exact .undecided logical (ihLeft overlooks) ok (ihRight overlooks)
  | undecidable logical left failed ih => exact .undecidable logical (ih overlooks) failed
  | ternary condition ok branch ihCondition ihBranch =>
      exact .ternary (ihCondition overlooks) ok (ihBranch overlooks)
  | ternary_fails condition failed ih => exact .ternary_fails (ih overlooks) failed
  | stands operand stands ih => exact .stands (ih overlooks) stands
  | rescued operand caught fallback ihOperand ihFallback =>
      exact .rescued (ihOperand overlooks) caught (ihFallback overlooks)
  | function args ok callee ihArgs ihCallee =>
      exact .function (ihArgs overlooks) ok (ihCallee overlooks)
  | function_fails args failed ih => exact .function_fails (ih overlooks) failed
  | method args ok callee ihArgs ihCallee => exact .method (ihArgs overlooks) ok (ihCallee overlooks)
  | method_fails args failed ih => exact .method_fails (ih overlooks) failed
  | index target ok key ihTarget ihKey => exact .index (ihTarget overlooks) ok (ihKey overlooks)
  | index_fails target failed ih => exact .index_fails (ih overlooks) failed
  | template parts ih => exact .template (ih overlooks)
  | nil => exact .nil
  | cons head ok tail ihHead ihTail => exact .cons (ihHead overlooks) ok (ihTail overlooks)
  | cons_fails head failed ih => exact .cons_fails (ih overlooks) failed
  | noParts => exact .noParts
  | text rest ih => exact .text (ih overlooks)
  | span here ok rest ihHere ihRest => exact .span (ihHere overlooks) ok (ihRest overlooks)
  | span_fails here failed ih => exact .span_fails (ih overlooks) failed
  | unselected refused => exact .unselected refused
  | mistyped selected refused => exact .mistyped selected refused
  | @native s kind name values f args body selected checked native =>
      have listed := (List.mem_filter.mp (Registry.mem_candidates_of_select selected)).1
      have same := (overlooks kind name f listed body native).same s.callSite args limit
      rw [← same, ← answer_congr s (s.withLimit limit) rfl]
      exact .native selected checked native
  | fixed selected checked custom fixed => exact .fixed selected checked custom fixed
  | custom selected checked custom tree body ih =>
      exact .custom selected checked custom tree (ih overlooks)

namespace Setting

variable (s : Setting) (e : Expr)

theorem outcome_eq_of_evaluates {r : Run Value} {n : Nat} (evaluates : Evaluates s (.tree e) r n)
    (enough : n ≤ s.config.maxDepth) : s.outcome e = r :=
  evaluates.limited.enough s.config.maxDepth enough

theorem isCutOff_of_evaluates {r : Run Value} {n : Nat} (evaluates : Evaluates s (.tree e) r n)
    (short : s.config.maxDepth < n) : (s.outcome e).IsCutOff s.config.maxDepth :=
  evaluates.limited.short s.config.maxDepth short

theorem isCutOff_of_endless (endless : ∀ r n, ¬ Evaluates s (.tree e) r n) :
    (s.outcome e).IsCutOff s.config.maxDepth := by
  rcases settles_tree s.config.maxDepth s e with cut | ⟨n, -, evaluates⟩
  · exact cut
  · exact absurd evaluates (endless _ n)

/-- What is cut off under every limit has no outcome: it would name all of them. -/
theorem endless_of_isCutOff (overlooks : s.functions.OverlooksLimit)
    (cut : ∀ limit, ((s.withLimit limit).outcome e).IsCutOff limit) (r : Run Value) (n : Nat) :
    ¬ Evaluates s (.tree e) r n := by
  intro evaluates
  have named (limit : Nat) (enough : n ≤ limit) : r.result = .error (.depthLimitExceeded limit) := by
    rw [← outcome_eq_of_evaluates _ e (evaluates.withLimit overlooks limit) enough]
    exact cut limit
  have both := (named n (Nat.le_refl n)).symm.trans (named (n + 1) (Nat.le_succ n))
  simp at both

theorem outcome_withLimit (overlooks : s.functions.OverlooksLimit)
    (finished : ¬ (s.outcome e).IsCutOff s.config.maxDepth) (limit : Nat)
    (more : s.config.maxDepth ≤ limit) : (s.withLimit limit).outcome e = s.outcome e := by
  rcases settles_tree s.config.maxDepth s e with cut | ⟨n, enough, evaluates⟩
  · exact absurd cut finished
  · exact outcome_eq_of_evaluates _ e (evaluates.withLimit overlooks limit) (Nat.le_trans enough more)

end Setting

mutual

/-- How deeply the tree nests, itself included. -/
def Expr.height : Expr → Nat
  | .unary _ operand => operand.height + 1
  | .binary _ left right => max left.height right.height + 1
  | .ternary condition a b => max condition.height (max a.height b.height) + 1
  | .rescue operand fallback => max operand.height fallback.height + 1
  | .call _ args => heightOfAll args + 1
  | .method receiver _ args => max receiver.height (heightOfAll args) + 1
  | .index target key => max target.height key.height + 1
  | .template parts => heightOfParts parts + 1
  | _ => 1

def Expr.heightOfAll : List Expr → Nat
  | [] => 0
  | e :: es => max e.height (heightOfAll es)

def Expr.heightOfParts : List TemplatePart → Nat
  | [] => 0
  | .text _ :: rest => heightOfParts rest
  | .span e :: rest => max e.height (heightOfParts rest)

end

namespace Expr

theorem height_pos (e : Expr) : 0 < e.height := by
  cases e <;> simp [height]

theorem height_le_heightOfAll {es : List Expr} {e : Expr} (member : e ∈ es) :
    e.height ≤ heightOfAll es := by
  induction member with
  | head rest => exact Nat.le_max_left _ _
  | tail first _ ih => exact Nat.le_trans ih (Nat.le_max_right _ _)

theorem height_le_heightOfParts {ps : List TemplatePart} {e : Expr} (member : .span e ∈ ps) :
    e.height ≤ heightOfParts ps := by
  induction ps with
  | nil => cases member
  | cons part rest ih =>
      rcases List.mem_cons.mp member with rfl | later
      · exact Nat.le_max_left _ _
      · cases part with
        | text content => exact ih later
        | span first => exact Nat.le_trans (ih later) (Nat.le_max_right _ _)

theorem height_lt_of_mem_children {e child : Expr} (member : child ∈ e.children) :
    child.height < e.height := by
  cases e with
  | call name args => exact Nat.lt_succ_of_le (height_le_heightOfAll member)
  | method receiver name args => exact Nat.lt_succ_of_le (height_le_heightOfAll member)
  | template parts =>
      obtain ⟨part, listed, spanned⟩ := List.mem_filterMap.mp member
      cases part with
      | text content => cases spanned
      | span e =>
          cases spanned
          exact Nat.lt_succ_of_le (height_le_heightOfParts listed)
  | integer | number | string | boolean | «variable» => cases member
  | unary | binary | ternary | rescue | index =>
      simp only [children, List.mem_cons, List.not_mem_nil, or_false] at member
      simp only [height]
      rcases member with rfl | rfl | rfl
      all_goals omega

/-- No call in the tree may select a custom function. -/
inductive CallsNoCustom (r : Registry) : Expr → Prop where
  | intro {e} (callees : ∀ f ∈ e.callees r, f.isCustom = false)
      (children : ∀ child ∈ e.children, CallsNoCustom r child) : CallsNoCustom r e

end Expr

theorem eval_failsBy_limit (depth : Nat) (s : Setting) (overlooks : s.functions.OverlooksLimit) (e : Expr) :
    (eval depth s e).FailsBy fun c =>
      c = .depthLimitExceeded s.config.maxDepth ∨ c.mentionsLimit = false := by
  induction depth generalizing s e with
  | zero =>
      intro c failed
      cases failed
      exact .inl rfl
  | succ depth ih =>
      refine evalNode_failsBy (.limit s.config.maxDepth) overlooks e (fun child _ => ih s overlooks child) ?_
      intro f _ g _ body _ resolve
      exact ih { s with resolve } overlooks body

theorem eval_failsBy_other (depth : Nat) (s : Setting) (overlooks : s.functions.OverlooksLimit) (e : Expr)
    (native : e.CallsNoCustom s.functions) (enough : e.height ≤ depth) :
    (eval depth s e).FailsBy fun c => c.mentionsLimit = false := by
  induction depth generalizing e with
  | zero => exact absurd enough (Nat.not_le_of_lt e.height_pos)
  | succ depth ih =>
      obtain ⟨callees, children⟩ := native
      refine evalNode_failsBy .other overlooks e (fun child member => ?_) ?_
      · have lower := Expr.height_lt_of_mem_children member
        exact ih child (children child member) (by omega)
      · intro f member g custom
        have isNative := callees f member
        simp [Function.isCustom, custom] at isNative

/-- The depth limit only cuts evaluations off. Where the relation, which knows no limit, comes to an
outcome, the evaluator comes to the same one if the limit admits the levels it takes; otherwise, and where
the relation comes to none, it ends with the failure that names the limit, in whatever rescues and calls
it was cut off.

A function that is not a card's own is given the whole configuration and may answer as it likes. Where
none of them looks at the limit or fails in its name, a higher limit leaves an outcome as it is, a tree
without custom functions is not cut off under a limit of its height, and custom functions never pass on
the limit as a fault of theirs. This holds for the registry of any card. -/
theorem depthLimit_onlyCutsOff :
    (∀ (s : Setting) (e : Expr),
      (∀ r n, Evaluates s (.tree e) r n →
        (n ≤ s.config.maxDepth → s.outcome e = r) ∧
          (s.config.maxDepth < n → (s.outcome e).IsCutOff s.config.maxDepth)) ∧
        ((∀ r n, ¬ Evaluates s (.tree e) r n) → (s.outcome e).IsCutOff s.config.maxDepth)) ∧
    (∀ (s : Setting), s.functions.OverlooksLimit → ∀ (e : Expr),
      (¬ (s.outcome e).IsCutOff s.config.maxDepth →
        ∀ limit, s.config.maxDepth ≤ limit → (s.withLimit limit).outcome e = s.outcome e) ∧
        (e.CallsNoCustom s.functions → e.height ≤ s.config.maxDepth →
          ∀ limit, ¬ (s.outcome e).IsCutOff limit) ∧
        ∀ c, (s.outcome e).result = .error c →
          c = .depthLimitExceeded s.config.maxDepth ∨ c.mentionsLimit = false) ∧
    ∀ (d : CardDeclarations) (r : Registry), d.registry = .ok r → r.OverlooksLimit := by
  refine ⟨fun s e => ⟨fun r n evaluates => ⟨?_, ?_⟩, ?_⟩, fun s overlooks e => ⟨?_, ?_, ?_⟩, ?_⟩
  · exact s.outcome_eq_of_evaluates e evaluates
  · exact s.isCutOff_of_evaluates e evaluates
  · exact s.isCutOff_of_endless e
  · exact s.outcome_withLimit e overlooks
  · intro native enough limit cut
    have other := eval_failsBy_other s.config.maxDepth s overlooks e native enough _ cut
    cases other
  · exact eval_failsBy_limit s.config.maxDepth s overlooks e
  · exact Registry.overlooksLimit_of_card

/-- A function that calls itself for good. -/
def CustomFunction.loop : CustomFunction := ⟨"loop", [], .integer, ⟨"", .tree (.call "loop" [])⟩⟩

/-- Two functions that call each other until they know whether a number is even, and an endless one. -/
def Registry.recursive : Registry :=
  let parity (name other : String) (zero : Bool) : CustomFunction :=
    let rest : Expr := .call other [.binary .subtract (.variable "n") (.integer 1)]
    let body : Expr := .ternary (.binary .equal (.variable "n") (.integer 0)) (.boolean zero) rest
    ⟨name, [⟨"n", .integer⟩], .boolean, ⟨"", .tree body⟩⟩
  let add (r : Registry) (f : CustomFunction) : Registry := r.add .function ⟨f.name, f.signature, .custom f⟩
  add (add (add {} (parity "even" "odd" true)) (parity "odd" "even" false)) .loop

theorem Registry.overlooksLimit_recursive : Registry.recursive.OverlooksLimit := by
  have custom (f : CustomFunction) : Function.OverlooksLimit ⟨f.name, f.signature, .custom f⟩ :=
    Function.overlooksLimit_of_custom rfl
  exact ((OverlooksLimit.empty.add .function (custom _)).add .function (custom _)).add .function (custom _)

theorem eval_loop (depth : Nat) (s : Setting) (functions : s.functions = .recursive) :
    (eval depth s (.call "loop" [])).result = .error (.depthLimitExceeded s.config.maxDepth) := by
  induction depth generalizing s with
  | zero => rfl
  | succ depth ih =>
      have selected : s.functions.select .function "loop" [] =
          .ok ⟨"loop", CustomFunction.loop.signature, .custom .loop⟩ := by
        rw [functions]
        rfl
      have below := ih { s with resolve := .ofTable [] } functions
      show (callFunction (eval depth) s .function "loop" []).result = _
      rw [callFunction_checked selected rfl]
      show (callCustom (eval depth) s .loop ⟨"loop", []⟩).result = _
      rw [callCustom_tree rfl, Run.bind_of_error (c := .depthLimitExceeded s.config.maxDepth)]
      · rfl
      · exact congrArg (Except.mapError (EvalError.inCustomFunction "loop")) below

/-- Deciding whether two is even takes nine levels, the fallback around it included. With eight it is cut
off in spite of the fallback, and no number of levels is enough for the loop. -/
theorem depthLimit_onlyCutsOff_of_recursion :
    ∃ (s : Setting) (even loop sum : Expr) (r : Run Value),
      s.config.maxDepth = 9 ∧ Evaluates s (.tree even) r 9 ∧ r.result = .ok (.boolean true) ∧
        s.outcome even = r ∧ ((s.withLimit 8).outcome even).IsCutOff 8 ∧
        (s.withLimit 256).outcome even = r ∧ (s.outcome loop).IsCutOff 9 ∧
        sum.CallsNoCustom s.functions ∧ sum.height = 3 ∧ ¬ ((s.withLimit 3).outcome sum).IsCutOff 3 ∧
        Registry.builtins.OverlooksLimit := by
  let s : Setting := ⟨.ofTable [], .recursive, { maxDepth := 9 }, .epoch⟩
  let even : Expr := .rescue (.call "even" [.integer 2]) (.boolean false)
  let loop : Expr := .call "loop" []
  let sum : Expr := .unary .plus (.binary .add (.integer 1) (.integer 2))
  obtain ⟨cutsOff, changesNone, ofCard⟩ := depthLimit_onlyCutsOff
  have ok : (s.outcome even).result = .ok (.boolean true) :=
    Value.eq_ok_of_same (fun v => (v.same_boolean_iff true).mp) (by decide +kernel)
  have finished : ¬ (s.outcome even).IsCutOff 9 := by
    intro cut
    cases ok.symm.trans cut
  have evaluates : Evaluates s (.tree even) (s.outcome even) 9 := by
    rcases settles_tree 9 s even with cut | ⟨n, le, evaluates⟩
    · exact absurd cut finished
    · have enough : 9 ≤ n := by
        refine Nat.le_of_not_lt fun less => ?_
        have same : eval 8 s even = s.outcome even := evaluates.limited.enough 8 (by omega)
        have short : (eval 8 s even).result.toOption.isSome = false := by decide +kernel
        rw [same, ok] at short
        cases short
      rwa [Nat.le_antisymm le enough] at evaluates
  have shallow : Evaluates (s.withLimit 8) (.tree even) (s.outcome even) 9 :=
    evaluates.withLimit Registry.overlooksLimit_recursive 8
  have endless (r : Run Value) (n : Nat) : ¬ Evaluates s (.tree loop) r n :=
    s.endless_of_isCutOff loop Registry.overlooksLimit_recursive
      (fun limit => eval_loop limit (s.withLimit limit) rfl) r n
  have native : sum.CallsNoCustom .recursive := by
    have leaf (i : Int64) : Expr.CallsNoCustom .recursive (.integer i) :=
      ⟨by simp [Expr.callees], by simp [Expr.children]⟩
    have addition : Expr.CallsNoCustom .recursive (.binary .add (.integer 1) (.integer 2)) :=
      ⟨by simp [Expr.callees], by simp [Expr.children, leaf]⟩
    exact ⟨by simp [sum, Expr.callees], by simp [sum, Expr.children, addition]⟩
  refine ⟨s, even, loop, sum, s.outcome even, rfl, evaluates, ok, ?_, ?_, ?_, ?_, native, rfl, ?_, ?_⟩
  · exact ((cutsOff s even).1 _ 9 evaluates).1 (by decide)
  · exact ((cutsOff (s.withLimit 8) even).1 _ 9 shallow).2 (by decide)
  · exact (changesNone s Registry.overlooksLimit_recursive even).1 finished 256 (by decide)
  · exact (cutsOff s loop).2 endless
  · exact (changesNone (s.withLimit 3) Registry.overlooksLimit_recursive sum).2.1 native (by decide) 3
  · exact ofCard {} .builtins rfl

end CardExpr
