import CardExpr.Proofs.Evaluation.Closed
import CardExpr.Proofs.Evaluation.ReadOrder
import CardExpr.Proofs.Evaluation.ReadSet
import CardExpr.Proofs.Evaluation.Visits
import CardExpr.Proofs.Function.Reading

/-!
Read-sets and the names in expressions. What an evaluation reads is a variable of the expression that it comes
to, or is asked for by a function that it calls: of the built-in ones, by a getter that is handed the name.
-/

namespace CardExpr

variable {α β : Type} {p : String → Prop}

def Run.ReadsBy (p : String → Prop) (m : Run α) : Prop := ∀ read ∈ m.reads, p read.name

namespace Run.ReadsBy

theorem silent {m : Run α} (nothing : m.reads = []) : m.ReadsBy p := by
  intro read member
  rw [nothing] at member
  cases member

theorem bind {m : Run α} {next : α → Run β} (first : m.ReadsBy p)
    (rest : ∀ a, m.result = .ok a → (next a).ReadsBy p) : (m >>= next).ReadsBy p := by
  cases outcome : m.result with
  | error c =>
      rw [Run.bind_of_error outcome]
      exact first
  | ok a =>
      rw [Run.bind_of_ok outcome]
      exact fun read member => (List.mem_append.mp member).elim (first read) (rest a outcome read)

theorem rescue {m other : Run α} (first : m.ReadsBy p) (second : m.isCaught = true → other.ReadsBy p) :
    (m.rescue fun _ => other).ReadsBy p := by
  cases caught : m.isCaught with
  | false =>
      rw [Run.rescue_of_not_caught caught]
      exact first
  | true =>
      rw [Run.rescue_of_caught caught]
      exact fun read member => (List.mem_append.mp member).elim (first read) (second caught read)

theorem asked {m : Run Value} (first : m.ReadsBy p) (operator : String) : (m.asked operator).ReadsBy p := by
  refine first.bind fun v _ => .silent ?_
  cases v <;> rfl

end Run.ReadsBy

section Levels

variable {below : Expr → Run Value}

theorem evalAll_readsBy {es : List Expr} (trees : ∀ before e after vs, es = before ++ e :: after →
    (evalAll below before).result = .ok vs → (below e).ReadsBy p) : (evalAll below es).ReadsBy p := by
  induction es with
  | nil => exact .silent rfl
  | cons e es ih =>
      refine (trees [] e es [] rfl rfl).bind fun v head => ?_
      have later : (evalAll below es).ReadsBy p := ih fun before inner after vs split ok => by
        refine trees (e :: before) inner after (v :: vs) (congrArg (e :: ·) split) ?_
        simp only [evalAll, Run.result_bind, head, ok]
        rfl
      exact later.bind fun vs _ => .silent rfl

theorem evalParts_readsBy {ps : List TemplatePart}
    (trees : ∀ before e after text, ps = before ++ .span e :: after →
    (evalParts below before).result = .ok text → (below e).ReadsBy p) : (evalParts below ps).ReadsBy p := by
  induction ps with
  | nil => exact .silent rfl
  | cons part rest ih =>
      cases part with
      | text content =>
          have later : (evalParts below rest).ReadsBy p := ih fun before inner after text split ok => by
            refine trees (.text content :: before) inner after (content ++ text)
              (congrArg (.text content :: ·) split) ?_
            simp only [evalParts, Run.result_bind, ok]
            rfl
          exact later.bind fun text _ => .silent rfl
      | span e =>
          refine (trees [] e rest "" rfl rfl).bind fun v here => ?_
          have later : (evalParts below rest).ReadsBy p := ih fun before inner after text split ok => by
            refine trees (.span e :: before) inner after (v.text ++ text) (congrArg (.span e :: ·) split) ?_
            simp only [evalParts, Run.result_bind, here, ok]
            rfl
          exact later.bind fun text _ => .silent rfl

theorem evalBinary_readsBy {op : BinaryOp} {a b : Expr}
    (trees : ∀ inner, Visits below (.binary op a b) inner → (below inner).ReadsBy p) :
    (evalBinary below op a b).ReadsBy p := by
  cases logical : op.deciding? with
  | none =>
      rw [evalBinary_strict logical]
      exact (trees a .left).bind fun v ok => (trees b (.right logical ok)).bind fun w _ => .silent rfl
  | some d =>
      rw [evalBinary_logical logical]
      refine ((trees a .left).asked op.symbol).bind fun c ok => ?_
      split
      · exact .silent rfl
      next other =>
        rw [Bool.eq_not_iff.mpr other] at ok
        exact ((trees b (.undecided logical ok)).asked op.symbol).bind fun _ _ => .silent rfl

end Levels

/-- The top of the tree reads the name itself: as a variable, or in the function that it calls. -/
inductive Refers (below : Below) (s : Setting) : Expr → String → Prop where
  | variable (name : String) : Refers below s (.variable name) name
  | call {e kind callee es values name} (calls : e.Calls kind callee es)
      (ok : (evalAll (below s) es).result = .ok values)
      (asked : ∃ read ∈ (callFunction below s kind callee values).reads, read.name = name) :
        Refers below s e name

theorem evalNode_readsBy {below : Below} {s : Setting} {e : Expr}
    (here : ∀ name, Refers below s e name → p name)
    (trees : ∀ inner, Visits (below s) e inner → (below s inner).ReadsBy p) :
    (evalNode below s e).ReadsBy p := by
  have called {kind : CallKind} {callee : String} {es : List Expr} (calls : e.Calls kind callee es) :
      (evalAll (below s) es >>= fun values => callFunction below s kind callee values).ReadsBy p := by
    refine (evalAll_readsBy fun before inner after vs split ok => ?_).bind fun values ok read asked =>
      here read.name (.call calls ok ⟨read, asked, rfl⟩)
    exact trees inner (.argument (split ▸ calls) ok)
  cases e with
  | integer i => exact .silent rfl
  | number x => exact .silent rfl
  | string text => exact .silent rfl
  | boolean b => exact .silent rfl
  | «variable» name =>
      have lookUp : (readVariable s name).ReadsBy p := fun read member => by
        rw [List.mem_singleton.mp member]
        exact here name (.variable name)
      refine lookUp.bind fun found _ => ?_
      cases found <;> exact .silent rfl
  | unary op operand => exact (trees operand .operand).bind fun v _ => .silent rfl
  | binary op a b => exact evalBinary_readsBy trees
  | ternary condition a b =>
      refine ((trees condition .condition).asked "?:").bind fun c ok => ?_
      have branch := trees _ (.branch ok)
      cases c <;> exact branch
  | rescue a b => exact (trees a .rescued).rescue fun caught => trees b (.fallback caught)
  | call callee args => exact called (.function callee args)
  | method receiver callee args =>
      rw [evalNode_method]
      exact called (.method receiver callee args)
  | index target key =>
      exact (trees target .target).bind fun v ok => (trees key (.key ok)).bind fun w _ => .silent rfl
  | template parts =>
      refine Run.ReadsBy.bind (evalParts_readsBy fun before inner after text split ok => ?_)
        fun _ _ => .silent rfl
      subst split
      exact trees inner (.part ok)

/-- Whatever an evaluation reads, within any limit and whether it fails or not, a tree reads that it comes to.
-/
theorem eval_readsBy (s : Setting) (depth : Nat) (e : Expr) :
    (eval depth s e).ReadsBy fun name =>
      ∃ room inner, s.Reaches depth e (room + 1) inner ∧ Refers (eval room) s inner name := by
  induction depth generalizing e with
  | zero => exact .silent rfl
  | succ depth ih =>
      refine evalNode_readsBy (fun name refers => ⟨depth, e, .here _ e, refers⟩)
        fun inner visits read member => ?_
      obtain ⟨room, tree, reaches, refers⟩ := ih inner read member
      exact ⟨room, tree, .within visits reaches, refers⟩

/-- The evaluation comes to a call by this name that hands these values to the function. -/
def Setting.Hands (s : Setting) (e : Expression) (kind : CallKind) (callee : String) (values : List Value)
    (f : Function) : Prop :=
  ∃ tree room inner es, e.meaning = .tree tree ∧ s.Reaches s.config.maxDepth tree (room + 1) inner ∧
    inner.Calls kind callee es ∧ (evalAll (eval room s) es).result = .ok values ∧
    s.functions.select kind callee values = .ok f

/-- It comes to a call of a built-in getter that hands it the name. -/
def Setting.HandsGetter (s : Setting) (e : Expression) (name : String) : Prop :=
  ∃ callee ∈ Builtin.getterNames, ∃ rest f, s.Hands e .function callee (.string name :: rest) f ∧
    f.IsBuiltin .function

/-- It comes to a call of a function that the host registered. -/
def Setting.CallsHost (s : Setting) (e : Expression) : Prop :=
  ∃ kind callee values f, s.Hands e kind callee values f ∧ ¬ f.IsBuiltin kind ∧ f.isCustom = false

/-- Somewhere in the expression a getter is called, whether an evaluation comes to it or not. -/
def Expression.CallsGetter (e : Expression) : Prop :=
  ∃ tree, e.meaning = .tree tree ∧ ∃ callee ∈ Builtin.getterNames, ∃ es, tree.Contains (.call callee es)

section Referring

variable {s : Setting} {e : Expression} {name : String}

/-- What a call reads a native function asks for: declared functions keep to their arguments. -/
theorem native_of_mem_reads {below : Below} {kind : CallKind} {callee : String} {values : List Value}
    (asked : ∃ read ∈ (callFunction below s kind callee values).reads, read.name = name) :
    ∃ f args body, s.functions.select kind callee values = .ok f ∧ f.checkArgs values = .ok args ∧
      f.body = .native body ∧ (body s.callSite args).MayRead name := by
  obtain ⟨read, asked, rfl⟩ := asked
  cases selected : s.functions.select kind callee values with
  | error c =>
      rw [callFunction_unselected selected] at asked
      cases asked
  | ok f =>
      cases checked : f.checkArgs values with
      | error c =>
          rw [callFunction_mistyped selected checked] at asked
          cases asked
      | ok args =>
          rw [callFunction_checked selected checked] at asked
          cases native : f.body with
          | native body =>
              rw [native] at asked
              exact ⟨f, args, body, rfl, checked, native, mayRead_of_mem_answer asked⟩
          | custom g =>
              rw [native] at asked
              change read ∈ (callCustom below s g args).reads at asked
              rw [callCustom_reads] at asked
              cases asked

theorem referred_of_mem_reads (reachable : s.functions.Reachable) {read : VariableRead}
    (member : read ∈ (evaluate s e).reads) :
    read.name ∈ e.variableNames ∨ s.HandsGetter e read.name ∨ s.CallsHost e := by
  unfold evaluate at member
  cases meaning : e.meaning with
  | constant v =>
      rw [meaning] at member
      cases member
  | tree tree =>
      rw [meaning] at member
      obtain ⟨room, inner, reaches, refers⟩ :=
        eval_readsBy s s.config.maxDepth tree read ((mem_ofReads _ read).mp member)
      cases refers with
      | «variable» =>
          refine .inl ?_
          unfold Expression.variableNames
          rw [meaning]
          exact (mem_orderedSet nameBefore tree.occurrences read.name).mpr
            (reaches.contains.occurrences List.mem_cons_self)
      | @call _ kind callee es values name calls ok asked =>
          obtain ⟨f, args, body, selected, checked, native, reads⟩ := native_of_mem_reads asked
          have hands : s.Hands e kind callee values f :=
            ⟨tree, room, inner, es, meaning, reaches, calls, ok, selected⟩
          by_cases builtin : f.IsBuiltin kind
          · obtain ⟨rfl, getter, rest, rfl⟩ :=
              Registry.getter_of_mayRead reachable selected checked native builtin reads
            exact .inr (.inl ⟨callee, getter, rest, f, hands, builtin⟩)
          · refine .inr (.inr ⟨kind, callee, values, f, hands, builtin, ?_⟩)
            rw [Function.isCustom, native]

theorem not_callsHost (hostFree : s.functions.HostFree) : ¬ s.CallsHost e := by
  rintro ⟨kind, callee, values, f, ⟨tree, room, inner, es, -, -, -, -, selected⟩, foreign, native⟩
  have listed := (List.mem_filter.mp (Registry.mem_candidates_of_select selected)).1
  rcases hostFree kind callee f listed with builtin | custom
  · exact foreign builtin
  · rw [custom] at native
    cases native

theorem Setting.HandsGetter.callsGetter (hands : s.HandsGetter e name) : e.CallsGetter := by
  obtain ⟨callee, getter, rest, f, ⟨tree, room, inner, es, meaning, reaches, calls, -, -⟩, -⟩ := hands
  cases calls
  exact ⟨tree, meaning, callee, getter, es, reaches.contains⟩

end Referring

/-- Read-sets are sound. Over any chain of stores and with any registry that comes about by operations, an
evaluation records each name once, with the store that a lookup finds it in, which is none exactly if it finds
nothing. Each of the names is a variable of the expression, or was handed to a getter by a call that the
evaluation came to outside the bodies of declared functions, unless a function of the host is called. So
without these, and without a getter in the expression, only its variables are read, whatever the evaluation
comes to. -/
theorem readSet_sound (s : Stores) (id : ScopeId) (functions : Registry) (reachable : functions.Reachable)
    (config : Config) (now : Calendar.DateTime) (e : Expression) :
    let setting : Setting := ⟨s.resolver id, functions, config, now⟩
    let reads := (evaluate setting e).reads
    (reads.map (·.name)).Nodup ∧
      (∀ read ∈ reads, read.scope = (s.lookup id read.name).map (·.2) ∧
        (read.scope = none ↔ s.lookup id read.name = none)) ∧
      (∀ read ∈ reads, read.name ∈ e.variableNames ∨ setting.HandsGetter e read.name ∨ setting.CallsHost e) ∧
      (functions.HostFree →
        (∀ read ∈ reads, read.name ∈ e.variableNames ∨ setting.HandsGetter e read.name) ∧
        (¬ e.CallsGetter → ∀ read ∈ reads, read.name ∈ e.variableNames)) := by
  intro setting reads
  have referred (read : VariableRead) (member : read ∈ reads) := referred_of_mem_reads reachable member
  refine ⟨?_, fun read member => ?_, referred, fun hostFree => ?_⟩
  · exact (ascending_names_reads setting e).imp fun before => ne_of_lt before
  · have scope : read.scope = (s.lookup id read.name).map (·.2) :=
      (scope_of_mem_reads setting e read member).trans (s.bind_scope_resolver id read.name)
    rw [scope]
    exact ⟨rfl, Option.map_eq_none_iff⟩
  · have named (read : VariableRead) (member : read ∈ reads) :
        read.name ∈ e.variableNames ∨ setting.HandsGetter e read.name :=
      (referred read member).imp_right fun asked => asked.resolve_right (not_callsHost hostFree)
    exact ⟨named, fun getterFree read member =>
      (named read member).resolve_right fun hands => getterFree hands.callsGetter⟩

/-- A declared function is called, and a getter with a name that is put together and a fallback that occurs.
-/
theorem readSet_sound_of_computed_name :
    ∃ (s : Stores) (d : FunctionDeclaration) (setting : Setting) (e : Expression),
      setting.resolve = s.resolver 1 ∧ setting.functions = Registry.builtins.after (.registerCustom d) ∧
      setting.functions.Reachable ∧ setting.functions.HostFree ∧
      (evaluate setting e).reads = [⟨"a", some 1⟩, ⟨"bc", some 0⟩, ⟨"d", none⟩] ∧
      s.lookup 1 "d" = none ∧ e.variableNames = ["a", "d"] ∧ setting.HandsGetter e "bc" ∧ e.CallsGetter := by
  let s : Stores :=
    ⟨[{ declared := [("a", ⟨.integer, .integer 1⟩), ("bc", ⟨.integer, .integer 2⟩)] },
      { ancestors := [0], declared := [("a", ⟨.integer, .integer 3⟩)] }]⟩
  let d : FunctionDeclaration := ⟨"twice", [⟨"n", .integer⟩], .integer, "@\x7bn + n\x7d"⟩
  let functions := Registry.builtins.after (.registerCustom d)
  let tree : Expr := .binary .add (.call "twice" [.variable "a"])
    (.call "getIntegerValue" [.binary .add (.string "b") (.string "c"), .rescue (.variable "d") (.integer 0)])
  let e : Expression := ⟨"@\x7btwice(a) + getIntegerValue('b' + 'c', d !: 0)\x7d", .tree tree⟩
  let setting : Setting := ⟨s.resolver 1, functions, {}, .epoch⟩
  have reachable : functions.Reachable := .step (.registerCustom d) .builtins
  have hostFree : functions.HostFree := Registry.HostFree.builtins.after d
  have read : (evaluate setting e).reads = [⟨"a", some 1⟩, ⟨"bc", some 0⟩, ⟨"d", none⟩] := by decide +kernel
  have names : e.variableNames = ["a", "d"] := by decide +kernel
  obtain ⟨-, scopes, -, referred⟩ := readSet_sound s 1 functions reachable {} .epoch e
  have asked : setting.HandsGetter e "bc" := by
    refine ((referred hostFree).1 ⟨"bc", some 0⟩ (by simp [setting, read])).resolve_left ?_
    rw [names]
    decide
  have missing : s.lookup 1 "d" = none := (scopes ⟨"d", none⟩ (by simp [setting, read])).2.mp rfl
  exact ⟨s, d, setting, e, rfl, rfl, reachable, hostFree, read, missing, names, asked, asked.callsGetter⟩

end CardExpr
