import CardExpr.Evaluation.Operators
import CardExpr.Evaluation.Run
import CardExpr.Function.Registry

/-!
Evaluation of expression trees. It reports every variable that it looks up, found or not, also when it
fails.
-/

namespace CardExpr

/-- What a name stands for, and the store that holds it where one does. -/
structure Resolved where
  value : Value
  scope : Option ScopeId

abbrev Resolver := String → Option Resolved

def Resolver.ofTable (values : Table Value) : Resolver := fun name =>
  (values.find? name).map fun v => ⟨v, none⟩

/-- All that an evaluation depends on beside its tree. -/
structure Setting where
  resolve : Resolver
  functions : Registry
  config : Config
  now : Calendar.DateTime

def Setting.callSite (s : Setting) : CallSite := ⟨s.config, s.now⟩

/-- Looks up a name; an unknown one counts as read too. -/
def readVariable (s : Setting) (name : String) : Run (Option Value) :=
  let found := s.resolve name
  ⟨.ok (found.map (·.value)), [⟨name, found.bind (·.scope)⟩], []⟩

def answer (s : Setting) (callee : String) : Action → Run Value
  | .done result => .ofExcept result
  | .read name next =>
    let found := s.resolve name
    let r := answer s callee (next (found.map (·.value)))
    { r with reads := ⟨name, found.bind (·.scope)⟩ :: r.reads }
  | .warn message next =>
    let r := answer s callee next
    { r with warnings := ⟨callee, message⟩ :: r.warnings }

def EvalError.inCustomFunction (name : String) : EvalError → EvalError
  | .depthLimitExceeded limit => .depthLimitExceeded limit
  | cause => .customFunction name cause

/-- One level of a tree; `below` evaluates a tree one level further down. -/
abbrev Below := Setting → Expr → Run Value

def expectBoolean (operator : String) : Value → Run Bool
  | .boolean b => pure b
  | other => .fail (.nonBooleanCondition operator other.type)

def evalCondition (below : Expr → Run Value) (operator : String) (e : Expr) : Run Bool := do
  expectBoolean operator (← below e)

def evalAll (below : Expr → Run Value) : List Expr → Run (List Value)
  | [] => pure []
  | e :: es => do
    let v ← below e
    let vs ← evalAll below es
    pure (v :: vs)

def evalParts (below : Expr → Run Value) : List TemplatePart → Run String
  | [] => pure ""
  | .text content :: rest => do
    let s ← evalParts below rest
    pure (content ++ s)
  | .span e :: rest => do
    let v ← below e
    let s ← evalParts below rest
    pure (v.text ++ s)

def evalBody (below : Below) (s : Setting) (f : CustomFunction) (args : Args) : Run Value :=
  match f.body.meaning with
  | .constant v => pure v
  | .tree body => (below { s with resolve := .ofTable (f.bindings args) } body).hideReads

def expectReturned (f : CustomFunction) (v : Value) : Run Value :=
  match v.conform? f.returnType with
  | some w => pure w
  | none => .fail (.returnType f.name f.returnType v.type)

def callCustom (below : Below) (s : Setting) (f : CustomFunction) (args : Args) : Run Value := do
  let v ← (evalBody below s f args).mapError (EvalError.inCustomFunction f.name)
  expectReturned f v

def callFunction (below : Below) (s : Setting) (kind : CallKind) (name : String)
    (values : List Value) : Run Value := do
  let f ← .ofExcept (s.functions.select kind name values)
  let args ← .ofExcept ((f.checkArgs values).mapError .argumentType)
  match f.body with
  | .native body => answer s f.name (body s.callSite args)
  | .custom custom => callCustom below s custom args

/-- `&&` and `||` evaluate their right operand only where the left one leaves the result open. -/
def evalBinary (below : Expr → Run Value) (op : BinaryOp) (left right : Expr) : Run Value :=
  match op with
  | .and => do
    if ← evalCondition below op.symbol left then
      pure (.boolean (← evalCondition below op.symbol right))
    else pure (.boolean false)
  | .or => do
    if ← evalCondition below op.symbol left then pure (.boolean true)
    else pure (.boolean (← evalCondition below op.symbol right))
  | op => do
    let a ← below left
    let b ← below right
    .ofExcept (applyBinary op a b)

def evalNode (below : Below) (s : Setting) : Expr → Run Value
  | .integer n => pure (.integer n)
  | .number x => pure (.number x)
  | .string t => pure (.string t)
  | .boolean b => pure (.boolean b)
  | .variable name => do
    match ← readVariable s name with
    | some v => pure v
    | none => .fail (.undefinedVariable name)
  | .unary op operand => do
    let v ← below s operand
    .ofExcept (applyUnary op v)
  | .binary op left right => evalBinary (below s) op left right
  | .ternary condition thenBranch elseBranch => do
    if ← evalCondition (below s) "?:" condition then below s thenBranch else below s elseBranch
  | .rescue operand fallback => (below s operand).rescue fun _ => below s fallback
  | .call name args => do
    let values ← evalAll (below s) args
    callFunction below s .function name values
  | .method receiver name args => do
    let v ← below s receiver
    let vs ← evalAll (below s) args
    callFunction below s .method name (v :: vs)
  | .index target key => do
    let t ← below s target
    let k ← below s key
    .ofExcept (applyIndex t k)
  | .template parts => do
    let text ← evalParts (below s) parts
    pure (.string text)

/-- Evaluates a tree of at most `depth` levels, those of the custom functions that it calls included. -/
def eval : (depth : Nat) → Setting → Expr → Run Value
  | 0, s, _ => .fail (.depthLimitExceeded s.config.maxDepth)
  | depth + 1, s, e => evalNode (eval depth) s e

/-- The outcome of an evaluation. The reads are kept when it fails: a failure may end once a missing
variable appears. -/
structure Evaluation where
  result : Except EvaluationError Value
  reads : ReadSet
  warnings : List Warning

def evaluate (s : Setting) (e : Expression) : Evaluation :=
  match e.meaning with
  | .constant v => ⟨.ok v, [], []⟩
  | .tree expr =>
    let r := eval s.config.maxDepth s expr
    ⟨r.result.mapError (⟨·, e.source⟩), .ofReads r.reads, r.warnings⟩

/-- Evaluates one tree after another and collects what all of them look up and warn of. It counts how deep it
is within a tree, and is back where it was after each. -/
structure Evaluator where
  setting : Setting
  /-- Whether it is of concern what is looked up. -/
  tracks : Bool := true
  reads : ReadSet := []
  warnings : List Warning := []
  /-- How many trees it is within. -/
  depth : Nat := 0

/-- A failure leaves the evaluator with what it has collected. -/
abbrev Evaluating := EStateM EvalError Evaluator

namespace Evaluator

def record (evaluator : Evaluator) (read : VariableRead) : Evaluator :=
  if evaluator.tracks then
    { evaluator with reads := insertOrdered VariableRead.before read evaluator.reads }
  else evaluator

def lookUp (name : String) : Evaluating (Option Value) := do
  let evaluator ← get
  let found := evaluator.setting.resolve name
  set (evaluator.record ⟨name, found.bind (·.scope)⟩)
  pure (found.map (·.value))

def warn (warning : Warning) : Evaluating Unit :=
  modify fun evaluator => { evaluator with warnings := evaluator.warnings ++ [warning] }

def ofExcept {α : Type} : Except EvalError α → Evaluating α
  | .ok a => pure a
  | .error e => throw e

def answer (callee : String) : Action → Evaluating Value
  | .done result => ofExcept result
  | .read name next => do
    let found ← lookUp name
    answer callee (next found)
  | .warn message next => do
    warn ⟨callee, message⟩
    answer callee next

def leave (evaluator : Evaluator) : Evaluator := { evaluator with depth := evaluator.depth - 1 }

/-- Goes on within one more tree, and leaves it again whatever comes of it. -/
def within {α : Type} (tree : Evaluating α) : Evaluating α := fun evaluator =>
  let limit := evaluator.setting.config.maxDepth
  if limit ≤ evaluator.depth then .error (.depthLimitExceeded limit) evaluator
  else
    match tree { evaluator with depth := evaluator.depth + 1 } with
    | .ok a evaluator => .ok a evaluator.leave
    | .error e evaluator => .error e evaluator.leave

/-- An evaluator for the body of a custom function: as deep as this one, with other variables. -/
def inner (evaluator : Evaluator) (resolve : Resolver) : Evaluator :=
  { setting := { evaluator.setting with resolve := resolve }, tracks := false, depth := evaluator.depth }

def taking (evaluator inner : Evaluator) : Evaluator :=
  { evaluator with warnings := evaluator.warnings ++ inner.warnings }

variable (below : Expr → Evaluating Value)

def evalCondition (operator : String) (e : Expr) : Evaluating Bool := do
  match ← below e with
  | .boolean b => pure b
  | other => throw (.nonBooleanCondition operator other.type)

def evalAll : List Expr → Evaluating (List Value)
  | [] => pure []
  | e :: es => do
    let v ← below e
    let vs ← evalAll es
    pure (v :: vs)

def evalParts (written : String) : List TemplatePart → Evaluating String
  | [] => pure written
  | .text content :: rest => evalParts (written ++ content) rest
  | .span e :: rest => do
    let v ← below e
    evalParts (written ++ v.text) rest

/-- The body of a custom function is evaluated by an evaluator of its own. Only its warnings are kept. -/
def evalBody (f : CustomFunction) (args : Args) : Evaluating Value :=
  match f.body.meaning with
  | .constant v => pure v
  | .tree body => fun evaluator =>
    match below body (evaluator.inner (.ofTable (f.bindings args))) with
    | .ok v inner => .ok v (evaluator.taking inner)
    | .error e inner => .error e (evaluator.taking inner)

def callCustom (f : CustomFunction) (args : Args) : Evaluating Value := do
  let v ← tryCatch (evalBody below f args) fun e => throw (e.inCustomFunction f.name)
  match v.conform? f.returnType with
  | some w => pure w
  | none => throw (.returnType f.name f.returnType v.type)

def callFunction (kind : CallKind) (name : String) (values : List Value) : Evaluating Value := do
  let s := (← get).setting
  let f ← ofExcept (s.functions.select kind name values)
  let args ← ofExcept ((f.checkArgs values).mapError .argumentType)
  match f.body with
  | .native body => answer f.name (body s.callSite args)
  | .custom custom => callCustom below custom args

def evalBinary (op : BinaryOp) (left right : Expr) : Evaluating Value :=
  match op with
  | .and => do
    if ← evalCondition below op.symbol left then
      pure (.boolean (← evalCondition below op.symbol right))
    else pure (.boolean false)
  | .or => do
    if ← evalCondition below op.symbol left then pure (.boolean true)
    else pure (.boolean (← evalCondition below op.symbol right))
  | op => do
    let a ← below left
    let b ← below right
    ofExcept (applyBinary op a b)

def evalNode : Expr → Evaluating Value
  | .integer n => pure (.integer n)
  | .number x => pure (.number x)
  | .string t => pure (.string t)
  | .boolean b => pure (.boolean b)
  | .variable name => do
    match ← lookUp name with
    | some v => pure v
    | none => throw (.undefinedVariable name)
  | .unary op operand => do
    let v ← below operand
    ofExcept (applyUnary op v)
  | .binary op left right => evalBinary below op left right
  | .ternary condition thenBranch elseBranch => do
    if ← evalCondition below "?:" condition then below thenBranch else below elseBranch
  | .rescue operand fallback =>
    tryCatch (below operand) fun e =>
      match e with
      | .depthLimitExceeded limit => throw (.depthLimitExceeded limit)
      | _ => below fallback
  | .call name args => do
    let values ← evalAll below args
    callFunction below .function name values
  | .method receiver name args => do
    let v ← below receiver
    let vs ← evalAll below args
    callFunction below .method name (v :: vs)
  | .index target key => do
    let t ← below target
    let k ← below key
    ofExcept (applyIndex t k)
  | .template parts => do
    let text ← evalParts below "" parts
    pure (.string text)

/-- Evaluates a tree. There is `room` for as many levels as the evaluator may still go down. -/
def evalTree : (room : Nat) → Expr → Evaluating Value
  | 0, _ => do throw (.depthLimitExceeded (← get).setting.config.maxDepth)
  | room + 1, e => within (evalNode (evalTree room) e)

def eval (evaluator : Evaluator) (e : Expr) : Except EvalError Value × Evaluator :=
  match evalTree (evaluator.setting.config.maxDepth - evaluator.depth) e evaluator with
  | .ok v evaluator => (.ok v, evaluator)
  | .error c evaluator => (.error c, evaluator)

def finish (evaluator : Evaluator) : ReadSet × List Warning := (evaluator.reads, evaluator.warnings)

end Evaluator

end CardExpr
