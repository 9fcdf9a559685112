import CardExpr.Proofs.Evaluation.Tracking

/-!
The branches of the evaluator as equations, and the meaning of trees as a big-step relation that knows no
limit to their depth and tells how deeply an evaluation nests.
-/

namespace CardExpr

variable {α β : Type}

/-- What is evaluated in one go: a tree, several one after another, the parts of a template, or a call. -/
inductive Task : Type → Type where
  | tree (e : Expr) : Task Value
  | all (es : List Expr) : Task (List Value)
  | parts (ps : List TemplatePart) : Task String
  | call (kind : CallKind) (name : String) (values : List Value) : Task Value

def Task.run (depth : Nat) (s : Setting) : {α : Type} → Task α → Run α
  | _, .tree e => eval depth s e
  | _, .all es => evalAll (eval depth s) es
  | _, .parts ps => evalParts (eval depth s) ps
  | _, .call kind name values => callFunction (eval depth) s kind name values

def Setting.outcome (s : Setting) (e : Expr) : Run Value := eval s.config.maxDepth s e

/-- The left operand that decides the result of a logical operator. -/
def BinaryOp.deciding? : BinaryOp → Option Bool
  | .and => some false
  | .or => some true
  | _ => none

namespace Run

def asked (operator : String) (m : Run Value) : Run Bool := m >>= expectBoolean operator

/-- Whether a fallback stands in for the run. -/
def isCaught (m : Run α) : Bool :=
  match m.result with
  | .ok _ => false
  | .error (.depthLimitExceeded _) => false
  | .error _ => true

theorem result_bind (m : Run α) (next : α → Run β) :
    (m >>= next).result = m.result >>= fun a => (next a).result := by
  cases outcome : m.result with
  | error c =>
      rw [bind_of_error outcome]
      rfl
  | ok a =>
      rw [bind_of_ok outcome]
      rfl

theorem bind_assoc {γ : Type} (m : Run α) (f : α → Run β) (g : β → Run γ) :
    m >>= f >>= g = m >>= fun a => f a >>= g := by
  cases first : m.result with
  | error c =>
      rw [bind_of_error first, bind_of_error first]
      exact bind_of_error (m := m.stopped c) rfl g
  | ok a =>
      rw [bind_of_ok first, bind_of_ok first]
      cases second : (f a).result with
      | error c =>
          rw [bind_of_error second]
          exact bind_of_error (m := m.followedBy (f a)) second g
      | ok b =>
          rw [bind_of_ok second]
          refine (bind_of_ok (m := m.followedBy (f a)) second g).trans ?_
          simp only [followedBy, List.append_assoc]

theorem pure_bind (a : α) (next : α → Run β) : pure a >>= next = next a :=
  (bind_of_ok (m := pure a) rfl next).trans rfl

theorem rescue_of_caught {m : Run α} (caught : m.isCaught = true) (other : Unit → Run α) :
    m.rescue other = m.followedBy (other ()) := by
  unfold isCaught at caught
  unfold rescue
  cases outcome : m.result with
  | ok a => simp [outcome] at caught
  | error c =>
      cases c
      case depthLimitExceeded limit => simp [outcome] at caught
      all_goals rfl

theorem rescue_of_not_caught {m : Run α} (stands : m.isCaught = false) (other : Unit → Run α) :
    m.rescue other = m := by
  unfold isCaught at stands
  unfold rescue
  cases outcome : m.result with
  | ok a => rfl
  | error c =>
      cases c
      case depthLimitExceeded limit => rfl
      all_goals simp [outcome] at stands

end Run

theorem evalBinary_strict {op : BinaryOp} (strict : op.deciding? = none) (below : Expr → Run Value)
    (a b : Expr) :
    evalBinary below op a b =
      below a >>= fun v => below b >>= fun w => .ofExcept (applyBinary op v w) := by
  cases op <;> first | rfl | cases strict

theorem evalBinary_logical {op : BinaryOp} {d : Bool} (logical : op.deciding? = some d)
    (below : Expr → Run Value) (a b : Expr) :
    evalBinary below op a b =
      (below a).asked op.symbol >>= fun c =>
        if c = d then pure (.boolean d)
        else (below b).asked op.symbol >>= fun c => pure (.boolean c) := by
  cases op <;> cases logical
  all_goals
    refine congrArg (Run.bind ((below a).asked _)) (funext fun c => ?_)
    cases c <;> rfl

/-- A method is called with its receiver and its arguments as if they stood in one list. -/
theorem evalNode_method (below : Below) (s : Setting) (e : Expr) (name : String) (es : List Expr) :
    evalNode below s (.method e name es) =
      evalAll (below s) (e :: es) >>= fun values => callFunction below s .method name values := by
  show (below s e >>= fun v => evalAll (below s) es >>= fun vs => _) =
    (below s e >>= fun v => evalAll (below s) es >>= fun vs => pure (v :: vs)) >>= _
  rw [Run.bind_assoc]
  refine congrArg (Run.bind (below s e)) (funext fun v => ?_)
  rw [Run.bind_assoc]
  refine congrArg (Run.bind (evalAll (below s) es)) (funext fun vs => ?_)
  exact (Run.pure_bind (v :: vs) _).symm

section Calls

variable {below : Below} {s : Setting} {kind : CallKind} {name : String} {values : List Value}

theorem callFunction_unselected {c : EvalError} (refused : s.functions.select kind name values = .error c) :
    callFunction below s kind name values = .fail c := by
  unfold callFunction
  rw [refused]
  exact Run.bind_of_error rfl _

theorem callFunction_mistyped {f : Function} {c : ArgumentTypeError}
    (selected : s.functions.select kind name values = .ok f) (refused : f.checkArgs values = .error c) :
    callFunction below s kind name values = .fail (.argumentType c) := by
  unfold callFunction
  rw [selected]
  refine (Run.pure_bind f _).trans ?_
  rw [refused]
  exact Run.bind_of_error rfl _

theorem callFunction_checked {f : Function} {args : Args}
    (selected : s.functions.select kind name values = .ok f) (checked : f.checkArgs values = .ok args) :
    callFunction below s kind name values =
      match f.body with
      | .native body => answer s f.name (body s.callSite args)
      | .custom custom => callCustom below s custom args := by
  unfold callFunction
  rw [selected]
  refine (Run.pure_bind f _).trans ?_
  rw [checked]
  exact Run.pure_bind args _

theorem callCustom_constant {g : CustomFunction} {v : Value} (fixed : g.body.meaning = .constant v)
    (args : Args) : callCustom below s g args = expectReturned g v := by
  unfold callCustom evalBody
  rw [fixed]
  exact Run.pure_bind v _

theorem callCustom_tree {g : CustomFunction} {e : Expr} (tree : g.body.meaning = .tree e) (args : Args) :
    callCustom below s g args =
      (below { s with resolve := .ofTable (g.bindings args) } e).hideReads.mapError
        (EvalError.inCustomFunction g.name) >>= expectReturned g := by
  unfold callCustom evalBody
  rw [tree]

end Calls

/-- `Evaluates s t r n`: over the setting `s` the task `t` comes to the outcome `r`, and trees are
evaluated within trees up to `n` levels deep on the way. -/
inductive Evaluates : {α : Type} → Setting → Task α → Run α → Nat → Prop where
  | integer {s i} : Evaluates s (.tree (.integer i)) (pure (.integer i)) 1
  | number {s x} : Evaluates s (.tree (.number x)) (pure (.number x)) 1
  | string {s text} : Evaluates s (.tree (.string text)) (pure (.string text)) 1
  | boolean {s b} : Evaluates s (.tree (.boolean b)) (pure (.boolean b)) 1
  | bound {s name x} (found : s.resolve name = some x) :
      Evaluates s (.tree (.variable name)) ⟨.ok x.value, [⟨name, x.scope⟩], []⟩ 1
  | unbound {s name} (missing : s.resolve name = none) :
      Evaluates s (.tree (.variable name)) ⟨.error (.undefinedVariable name), [⟨name, none⟩], []⟩ 1
  | unary {s op e r n} (operand : Evaluates s (.tree e) r n) :
      Evaluates s (.tree (.unary op e)) (r >>= fun v => .ofExcept (applyUnary op v)) (n + 1)
  -- The right operand of most operators is evaluated in any case.
  | binary {s op a b r v n q m} (strict : op.deciding? = none) (left : Evaluates s (.tree a) r n)
      (ok : r.result = .ok v) (right : Evaluates s (.tree b) q m) :
      Evaluates s (.tree (.binary op a b))
        (r.followedBy (q >>= fun w => .ofExcept (applyBinary op v w))) (max n m + 1)
  | binary_fails {s op a b r c n} (strict : op.deciding? = none) (left : Evaluates s (.tree a) r n)
      (failed : r.result = .error c) : Evaluates s (.tree (.binary op a b)) (r.stopped c) (n + 1)
  -- That of a logical one is evaluated where the left one does not decide.
  | decided {s op a b r d n} (logical : op.deciding? = some d) (left : Evaluates s (.tree a) r n)
      (ok : (r.asked op.symbol).result = .ok d) :
      Evaluates s (.tree (.binary op a b)) ((r.asked op.symbol).followedBy (pure (.boolean d))) (n + 1)
  | undecided {s op a b r d n q m} (logical : op.deciding? = some d) (left : Evaluates s (.tree a) r n)
      (ok : (r.asked op.symbol).result = .ok !d) (right : Evaluates s (.tree b) q m) :
      Evaluates s (.tree (.binary op a b))
        ((r.asked op.symbol).followedBy (q.asked op.symbol >>= fun c => pure (.boolean c))) (max n m + 1)
  | undecidable {s op a b r d c n} (logical : op.deciding? = some d) (left : Evaluates s (.tree a) r n)
      (failed : (r.asked op.symbol).result = .error c) :
      Evaluates s (.tree (.binary op a b)) ((r.asked op.symbol).stopped c) (n + 1)
  | ternary {s e a b r c n q m} (condition : Evaluates s (.tree e) r n)
      (ok : (r.asked "?:").result = .ok c) (branch : Evaluates s (.tree (if c then a else b)) q m) :
      Evaluates s (.tree (.ternary e a b)) ((r.asked "?:").followedBy q) (max n m + 1)
  | ternary_fails {s e a b r c n} (condition : Evaluates s (.tree e) r n)
      (failed : (r.asked "?:").result = .error c) :
      Evaluates s (.tree (.ternary e a b)) ((r.asked "?:").stopped c) (n + 1)
  | stands {s a b r n} (operand : Evaluates s (.tree a) r n) (stands : r.isCaught = false) :
      Evaluates s (.tree (.rescue a b)) r (n + 1)
  | rescued {s a b r n q m} (operand : Evaluates s (.tree a) r n) (caught : r.isCaught = true)
      (fallback : Evaluates s (.tree b) q m) :
      Evaluates s (.tree (.rescue a b)) (r.followedBy q) (max n m + 1)
  | function {s name es r vs n q m} (args : Evaluates s (.all es) r n) (ok : r.result = .ok vs)
      (callee : Evaluates s (.call .function name vs) q m) :
      Evaluates s (.tree (.call name es)) (r.followedBy q) (max n m + 1)
  | function_fails {s name es r c n} (args : Evaluates s (.all es) r n) (failed : r.result = .error c) :
      Evaluates s (.tree (.call name es)) (r.stopped c) (n + 1)
  | method {s e name es r vs n q m} (args : Evaluates s (.all (e :: es)) r n) (ok : r.result = .ok vs)
      (callee : Evaluates s (.call .method name vs) q m) :
      Evaluates s (.tree (.method e name es)) (r.followedBy q) (max n m + 1)
  | method_fails {s e name es r c n} (args : Evaluates s (.all (e :: es)) r n)
      (failed : r.result = .error c) :
      Evaluates s (.tree (.method e name es)) (r.stopped c) (n + 1)
  | index {s a b r v n q m} (target : Evaluates s (.tree a) r n) (ok : r.result = .ok v)
      (key : Evaluates s (.tree b) q m) :
      Evaluates s (.tree (.index a b)) (r.followedBy (q >>= fun w => .ofExcept (applyIndex v w)))
        (max n m + 1)
  | index_fails {s a b r c n} (target : Evaluates s (.tree a) r n) (failed : r.result = .error c) :
      Evaluates s (.tree (.index a b)) (r.stopped c) (n + 1)
  | template {s ps r n} (parts : Evaluates s (.parts ps) r n) :
      Evaluates s (.tree (.template ps)) (r >>= fun text => pure (.string text)) (n + 1)
  | nil {s} : Evaluates s (.all []) (pure []) 0
  | cons {s e es r v n q m} (head : Evaluates s (.tree e) r n) (ok : r.result = .ok v)
      (tail : Evaluates s (.all es) q m) :
      Evaluates s (.all (e :: es)) (r.followedBy (q >>= fun vs => pure (v :: vs))) (max n m)
  | cons_fails {s e es r c n} (head : Evaluates s (.tree e) r n) (failed : r.result = .error c) :
      Evaluates s (.all (e :: es)) (r.stopped c) n
  | noParts {s} : Evaluates s (.parts []) (pure "") 0
  | text {s content ps r n} (rest : Evaluates s (.parts ps) r n) :
      Evaluates s (.parts (.text content :: ps)) (r >>= fun text => pure (content ++ text)) n
  | span {s e ps r v n q m} (here : Evaluates s (.tree e) r n) (ok : r.result = .ok v)
      (rest : Evaluates s (.parts ps) q m) :
      Evaluates s (.parts (.span e :: ps)) (r.followedBy (q >>= fun text => pure (v.text ++ text)))
        (max n m)
  | span_fails {s e ps r c n} (here : Evaluates s (.tree e) r n) (failed : r.result = .error c) :
      Evaluates s (.parts (.span e :: ps)) (r.stopped c) n
  | unselected {s kind name values c} (refused : s.functions.select kind name values = .error c) :
      Evaluates s (.call kind name values) (.fail c) 0
  | mistyped {s kind name values f c} (selected : s.functions.select kind name values = .ok f)
      (refused : f.checkArgs values = .error c) :
      Evaluates s (.call kind name values) (.fail (.argumentType c)) 0
  | native {s kind name values f args body} (selected : s.functions.select kind name values = .ok f)
      (checked : f.checkArgs values = .ok args) (native : f.body = .native body) :
      Evaluates s (.call kind name values) (answer s f.name (body s.callSite args)) 0
  | fixed {s kind name values f args g v} (selected : s.functions.select kind name values = .ok f)
      (checked : f.checkArgs values = .ok args) (custom : f.body = .custom g)
      (fixed : g.body.meaning = .constant v) :
      Evaluates s (.call kind name values) (expectReturned g v) 0
  -- A body sees the arguments of the call and no other variable.
  | custom {s kind name values f args g e r n} (selected : s.functions.select kind name values = .ok f)
      (checked : f.checkArgs values = .ok args) (custom : f.body = .custom g)
      (tree : g.body.meaning = .tree e)
      (body : Evaluates { s with resolve := .ofTable (g.bindings args) } (.tree e) r n) :
      Evaluates s (.call kind name values)
        (r.hideReads.mapError (EvalError.inCustomFunction g.name) >>= expectReturned g) n

end CardExpr
