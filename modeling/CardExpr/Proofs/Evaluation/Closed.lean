import CardExpr.Proofs.Evaluation.Agreement
import CardExpr.Proofs.Function.Binding

/-!
Declared functions are closed. A call depends on its arguments and on no variable around it, and in its body,
or in that of a function that it calls, no name is found undefined.
-/

namespace CardExpr

variable {α β : Type}

/-- Whether a variable that is not defined is the cause, be it behind custom functions. -/
def EvalError.mentionsUndefined : EvalError → Bool
  | .undefinedVariable _ => true
  | .customFunction _ cause => cause.mentionsUndefined
  | _ => false

theorem EvalError.mentionsUndefined_inCustomFunction (name : String) (c : EvalError) :
    (c.inCustomFunction name).mentionsUndefined = c.mentionsUndefined := by
  cases c <;> rfl

theorem EvalError.mentionsUndefined_of_isLocal {c : EvalError} (here : c.isLocal = true) :
    c.mentionsUndefined = false := by
  cases c <;> first | rfl | cases here

/-- The running function may end with the failure, depending on what it is told. -/
def Action.MayFail : Action → EvalError → Prop
  | .done result, c => result = .error c
  | .read _ next, c => ∃ found, (next found).MayFail c
  | .warn _ next, c => next.MayFail c

/-- A function of the registry that is neither built in nor declared may itself end in the name of a variable
that is not defined. -/
def Registry.Complains (r : Registry) : Prop :=
  ∃ kind name, ∃ f ∈ r.overloads kind name, ¬ f.IsBuiltin kind ∧ ∃ body, f.body = .native body ∧
    ∃ site args c, (body site args).MayFail c ∧ c.mentionsUndefined = true

theorem answer_mayFail {s : Setting} {callee : String} {action : Action} {c : EvalError}
    (failed : (answer s callee action).result = .error c) : action.MayFail c := by
  induction action with
  | done result => exact failed
  | read name next ih => exact ⟨_, ih _ failed⟩
  | warn message next ih => exact ih failed

/-- A failure in the name of an undefined variable is the complaint of such a function. -/
def Blames (r : Registry) (c : EvalError) : Prop := c.mentionsUndefined = true → r.Complains

theorem Blames.of_isLocal {r : Registry} {c : EvalError} (here : c.isLocal = true) : Blames r c := by
  intro mentions
  rw [c.mentionsUndefined_of_isLocal here] at mentions
  cases mentions

namespace Run.FailsBy

variable {p : EvalError → Prop} {r : Registry}

theorem stopped {m : Run α} {c : EvalError} (failed : m.result = .error c) (fails : m.FailsBy p) :
    (m.stopped c : Run β).FailsBy p := by
  intro d same
  cases same
  exact fails c failed

theorem of_local {x : Except EvalError α} (here : Local x) : (Run.ofExcept x).FailsBy (Blames r) :=
  fun c failed => .of_isLocal (here c failed)

theorem asked {m : Run Value} (fails : m.FailsBy (Blames r)) (operator : String) :
    (m.asked operator).FailsBy (Blames r) := by
  refine fails.bind fun v _ => ?_
  cases v with
  | boolean b => exact .pure b
  | _ => exact .of_local (.error rfl)

theorem returned {m : Run Value} (fails : m.FailsBy (Blames r)) (g : CustomFunction) :
    (m >>= expectReturned g).FailsBy (Blames r) := by
  refine fails.bind fun v _ => ?_
  unfold expectReturned
  split
  · exact .pure _
  · exact .of_local (.error rfl)

theorem inCustomFunction {m : Run Value} (fails : m.FailsBy (Blames r)) (name : String) :
    (m.hideReads.mapError (EvalError.inCustomFunction name)).FailsBy (Blames r) := by
  intro c failed mentions
  change m.result.mapError (EvalError.inCustomFunction name) = .error c at failed
  cases outcome : m.result with
  | ok v =>
      rw [outcome] at failed
      cases failed
  | error cause =>
      rw [outcome] at failed
      cases failed
      rw [cause.mentionsUndefined_inCustomFunction] at mentions
      exact fails cause outcome mentions

end Run.FailsBy

/-- The variables that occur in what is evaluated, bodies of custom functions apart. -/
def Task.occurrences : {α : Type} → Task α → List String
  | _, .tree e => e.occurrences
  | _, .all es => Expr.occurrencesOfAll es
  | _, .parts ps => Expr.occurrencesOfParts ps
  | _, .call _ _ _ => []

def Resolver.Knows (resolve : Resolver) (names : List String) : Prop :=
  ∀ name ∈ names, ∃ x, resolve name = some x

theorem Resolver.Knows.left {resolve : Resolver} {names more : List String}
    (known : resolve.Knows (names ++ more)) : resolve.Knows names :=
  fun name member => known name (List.mem_append_left more member)

theorem Resolver.Knows.right {resolve : Resolver} {names more : List String}
    (known : resolve.Knows (names ++ more)) : resolve.Knows more :=
  fun name member => known name (List.mem_append_right names member)

theorem CustomFunction.knows_bindings {d : FunctionDeclaration} {g : CustomFunction} {args : Args} {e : Expr}
    (compiles : compile d = .ok g) (fit : args.Fit (d.compiled g).signature)
    (tree : g.body.meaning = .tree e) : (Resolver.ofTable (g.bindings args)).Knows e.occurrences := by
  intro name occurs
  have listed : name ∈ g.body.variableNames := by
    unfold Expression.variableNames
    rw [tree]
    exact (mem_orderedSet nameBefore e.occurrences name).mpr occurs
  obtain ⟨v, found⟩ := (binds_of_fit compiles fit).find?_variable compiles listed
  exact ⟨⟨v, none⟩, by rw [Resolver.ofTable, found]; rfl⟩

theorem Evaluates.failsBy {s : Setting} {t : Task α} {r : Run α} {n : Nat} (evaluates : Evaluates s t r n)
    (declared : s.functions.Declared) (known : s.resolve.Knows t.occurrences) :
    r.FailsBy (Blames s.functions) := by
  induction evaluates with
  | integer => exact .pure _
  | number => exact .pure _
  | string => exact .pure _
  | boolean => exact .pure _
  | bound found => exact fun c failed => nomatch failed
  | @unbound s name missing =>
      obtain ⟨x, found⟩ := known name List.mem_cons_self
      rw [missing] at found
      cases found
  | @unary s op e r n operand ih =>
      exact (ih declared known).bind fun v _ => .of_local (local_applyUnary op v)
  | @binary s op a b r v n q m strict left ok right ihLeft ihRight =>
      exact (ihRight declared known.right).bind fun w _ => .of_local (local_applyBinary op v w)
  | binary_fails strict left failed ih => exact (ih declared known.left).stopped failed
  | decided logical left ok ih => exact .pure _
  | @undecided s op a b r d n q m logical left ok right ihLeft ihRight =>
      exact ((ihRight declared known.right).asked op.symbol).bind fun c _ => .pure _
  | @undecidable s op a b r d c n logical left failed ih =>
      exact ((ih declared known.left).asked op.symbol).stopped failed
  | @ternary s e a b r c n q m condition ok branch ihCondition ihBranch =>
      refine ihBranch declared ?_
      cases c with
      | true => exact known.left.right
      | false => exact known.right
  | ternary_fails condition failed ih => exact ((ih declared known.left.left).asked "?:").stopped failed
  | stands operand stands ih => exact ih declared known.left
  | rescued operand caught fallback ihOperand ihFallback => exact ihFallback declared known.right
  | function args ok callee ihArgs ihCallee => exact ihCallee declared fun name member => nomatch member
  | function_fails args failed ih => exact (ih declared known).stopped failed
  | method args ok callee ihArgs ihCallee => exact ihCallee declared fun name member => nomatch member
  | method_fails args failed ih => exact (ih declared known).stopped failed
  | @index s a b r v n q m target ok key ihTarget ihKey =>
      exact (ihKey declared known.right).bind fun w _ => .of_local (local_applyIndex v w)
  | index_fails target failed ih => exact (ih declared known.left).stopped failed
  | template parts ih => exact (ih declared known).bind fun _ _ => .pure _
  | nil => exact .pure _
  | cons head ok tail ihHead ihTail => exact (ihTail declared known.right).bind fun _ _ => .pure _
  | cons_fails head failed ih => exact (ih declared known.left).stopped failed
  | noParts => exact .pure _
  | text rest ih => exact (ih declared known).bind fun _ _ => .pure _
  | span here ok rest ihHere ihRest => exact (ihRest declared known.right).bind fun _ _ => .pure _
  | span_fails here failed ih => exact (ih declared known.left).stopped failed
  | @unselected s kind name values c refused =>
      exact .of_local (.error (s.functions.local_select kind name values c refused))
  | mistyped selected refused => exact .of_local (.error rfl)
  | @native s kind name values f args body selected checked native =>
      intro c failed mentions
      have ends := answer_mayFail failed
      have listed := (List.mem_filter.mp (Registry.mem_candidates_of_select selected)).1
      by_cases builtin : f.IsBuiltin kind
      · obtain ⟨same, isBody, sound⟩ : f.Sound := Builtin.entries_sound ⟨kind, f⟩ builtin
        obtain ⟨passed, again, fit⟩ := Registry.checkArgs_of_select selected
        rw [native] at isBody
        rw [checked] at again
        cases isBody
        cases again
        have proper := (answer_returns s f.name _ (sound s.callSite args fit)).proper c failed
        exact Blames.of_isLocal (c.isLocal_of_isProper proper) mentions
      · exact ⟨kind, name, f, listed, builtin, body, native, _, _, c, ends, mentions⟩
  | @fixed s kind name values f args g v selected checked custom fixed =>
      exact (Run.FailsBy.pure v).returned g
  | @custom s kind name values f args g e r n selected checked custom tree body ih =>
      have listed := (List.mem_filter.mp (Registry.mem_candidates_of_select selected)).1
      obtain ⟨d, compiles, rfl⟩ := declared kind name f listed g custom
      obtain ⟨same, again, fit⟩ := Registry.checkArgs_of_select selected
      rw [checked] at again
      cases again
      exact ((ih declared (CustomFunction.knows_bindings compiles fit tree)).inCustomFunction
        g.name).returned g

/-- Under any limit to the depth a call fails in the name of an undefined variable only where a function
that the host registered ends so. -/
theorem callFunction_failsBy_blames (depth : Nat) (s : Setting) (declared : s.functions.Declared)
    (kind : CallKind) (name : String) (values : List Value) :
    (callFunction (eval depth) s kind name values).FailsBy (Blames s.functions) := by
  rcases settles_call (settles_tree depth) s kind name values with cut | ⟨n, -, evaluates⟩
  · intro c failed
    rw [cut] at failed
    cases failed
    exact fun mentions => nomatch mentions
  · exact evaluates.failsBy declared fun name member => nomatch member

theorem callCustom_reads (below : Below) (s : Setting) (g : CustomFunction) (args : Args) :
    (callCustom below s g args).reads = [] := by
  cases meaning : g.body.meaning with
  | constant v =>
      rw [callCustom_constant meaning]
      unfold expectReturned
      split <;> rfl
  | tree e =>
      rw [callCustom_tree meaning]
      cases outcome : (below { s with resolve := .ofTable (g.bindings args) } e).result with
      | error c =>
          rw [Run.bind_of_error (congrArg (Except.mapError (EvalError.inCustomFunction g.name)) outcome)]
          rfl
      | ok v =>
          rw [Run.bind_of_ok (congrArg (Except.mapError (EvalError.inCustomFunction g.name)) outcome)]
          unfold expectReturned
          split <;> rfl

namespace Registry

def HostFree (r : Registry) : Prop :=
  ∀ kind name, ∀ f ∈ r.overloads kind name, f.IsBuiltin kind ∨ f.isCustom = true

theorem HostFree.not_complains {r : Registry} (hostFree : r.HostFree) : ¬ r.Complains := by
  rintro ⟨kind, name, f, member, foreign, body, native, -⟩
  rcases hostFree kind name f member with builtin | custom
  · exact foreign builtin
  · rw [Function.isCustom, native] at custom
    cases custom

theorem HostFree.empty : HostFree {} := by
  intro kind name f member
  cases kind <;> cases member

theorem HostFree.builtins : Registry.builtins.HostFree :=
  fun kind name f member => .inl ((mem_overloads_builtins kind name f).mp member).1

theorem HostFree.child {r : Registry} (hostFree : r.HostFree) : r.child.HostFree := by
  intro kind name f member
  rw [overloads_child] at member
  exact hostFree kind name f member

theorem HostFree.registerCustom {r t : Registry} (hostFree : r.HostFree) {d : FunctionDeclaration}
    (done : r.registerCustom d = .ok t) : t.HostFree := by
  have attempted : r.attempt (.registerCustom d) = .ok t := done
  rcases attempt_cases attempted with rfl | ⟨f, offers, -, rfl⟩
  · exact hostFree.child
  · intro kind name h member
    rcases (r.mem_overloads_add .function kind f h name).mp member with old | ⟨-, rfl⟩
    · exact hostFree kind name h old
    · cases offers with
      | custom compiles => exact .inr rfl

theorem HostFree.after {r : Registry} (hostFree : r.HostFree) (d : FunctionDeclaration) :
    (r.after (.registerCustom d)).HostFree := by
  unfold Registry.after
  split
  next done => exact hostFree.registerCustom done
  next => exact hostFree

theorem Reachable.registerCustom {r t : Registry} (reachable : r.Reachable) {d : FunctionDeclaration}
    (done : r.registerCustom d = .ok t) : t.Reachable := by
  have next := Reachable.step (.registerCustom d) reachable
  unfold after at next
  rwa [show r.attempt (.registerCustom d) = .ok t from done] at next

theorem reachable_of_card {d : CardDeclarations} {r : Registry} (done : d.registry = .ok r) : r.Reachable :=
  d.registry_preserves .builtins (fun _ reachable => .step .child reachable)
    (fun _ _ _ reachable done => reachable.registerCustom done) done

theorem hostFree_of_card {d : CardDeclarations} {r : Registry} (done : d.registry = .ok r) : r.HostFree :=
  d.registry_preserves .builtins (fun _ hostFree => hostFree.child)
    (fun _ _ _ hostFree done => hostFree.registerCustom done) done

end Registry

/-- Declared functions are closed and pure. In every registry that comes about by operations, a call that
selects a declared function has the same outcome over any two resolvers of variables, whatever number of
levels it may take, and reads no variable of either. Its body refers to arguments only, and they are bound
to what the call is given for them. So neither the body nor a function called from it fails in the name of
an undefined variable, unless one that the host registered ends so itself; in the registries of cards
there are none of these. -/
theorem customFunctions_closed :
    (∀ (s : Setting), s.functions.Reachable →
      ∀ (kind : CallKind) (name : String) (values : List Value) (f : Function) (g : CustomFunction),
        s.functions.select kind name values = .ok f → f.body = .custom g →
          (∀ depth first second, callFunction (eval depth) (s.over first) kind name values =
            callFunction (eval depth) (s.over second) kind name values) ∧
          (∀ depth, (callFunction (eval depth) s kind name values).reads = []) ∧
          (∀ n ∈ g.body.variableNames, n ∈ g.arguments.map (·.name)) ∧
          (∃ args, f.checkArgs values = .ok args ∧ g.Binds args) ∧
          ∀ depth c, (callFunction (eval depth) s kind name values).result = .error c →
            c.mentionsUndefined = true → s.functions.Complains) ∧
    ∀ (d : CardDeclarations) (r : Registry), d.registry = .ok r → r.Reachable ∧ ¬ r.Complains := by
  refine ⟨fun s reachable kind name values f g selected custom => ?_, fun d r done => ?_⟩
  · have listed := (List.mem_filter.mp (Registry.mem_candidates_of_select selected)).1
    obtain ⟨d, compiles, rfl⟩ := reachable.declared kind name f listed g custom
    obtain ⟨args, checked, fit⟩ := Registry.checkArgs_of_select selected
    have silent (depth : Nat) (resolve : Resolver) :
        (callFunction (eval depth) (s.over resolve) kind name values).reads = [] := by
      rw [callFunction_checked (s := s.over resolve) selected checked]
      exact callCustom_reads (eval depth) (s.over resolve) g args
    have alike (depth : Nat) (resolve : Resolver) :
      callFunction (eval depth) (s.over resolve) kind name values =
        callFunction (eval depth) s kind name values := by
      refine (tracked_compositional.callFunction (eval depth) s kind name values).decides s.resolve resolve ?_
      intro read member
      rw [silent] at member
      cases member
    refine ⟨?_, fun depth => silent depth s.resolve, (CustomFunction.compile_eq_ok compiles).2.1,
      ⟨args, checked, CustomFunction.binds_of_fit compiles fit⟩, ?_⟩
    · exact fun depth first second => (alike depth first).trans (alike depth second).symm
    · exact fun depth => callFunction_failsBy_blames depth s reachable.declared kind name values
  · exact ⟨Registry.reachable_of_card done, (Registry.hostFree_of_card done).not_complains⟩

/-- A function that calls itself down to zero and there calls one that does not exist: it fails for that,
inside each of the calls, over every resolver. -/
theorem customFunctions_closed_of_recursion :
    ∃ (d : FunctionDeclaration) (s : Setting) (f : Function) (g : CustomFunction) (c : EvalError),
      s.functions = ({} : Registry).after (.registerCustom d) ∧ s.functions.Reachable ∧
        s.functions.select .function "down" [.integer 1] = .ok f ∧ f.body = .custom g ∧
        (callFunction (eval 9) s .function "down" [.integer 1]).reads = [] ∧
        (∀ resolve, (callFunction (eval 9) (s.over resolve)
          .function "down" [.integer 1]).result = .error c) ∧
        c.message = "in custom function 'down': in custom function 'down': " ++
          "unknown function 'missing' with 1 argument(s)" ∧
        c.mentionsUndefined = false ∧ ¬ s.functions.Complains := by
  let d : FunctionDeclaration :=
    ⟨"down", [⟨"n", .integer⟩], .integer, "@\x7bn < 1 ? missing(n) : down(n - 1)\x7d"⟩
  let s : Setting := ⟨.ofTable [], ({} : Registry).after (.registerCustom d), {}, .epoch⟩
  have reachable : s.functions.Reachable := .step (.registerCustom d) .empty
  have native : ¬ s.functions.Complains := by
    obtain ⟨t, done⟩ : ∃ t, ({} : Registry).attempt (.registerCustom d) = .ok t :=
      exists_of_isSome (by decide +kernel)
    have same : s.functions = t := by
      show ({} : Registry).after (.registerCustom d) = t
      unfold Registry.after
      rw [done]
    rw [same]
    exact (Registry.HostFree.empty.registerCustom done).not_complains
  have chosen : (s.functions.select .function "down" [.integer 1]).toOption.any (·.isCustom) = true := by
    decide +kernel
  have told : (((callFunction (eval 9) s .function "down" [.integer 1]).result.map fun _ => "").tryCatch
      fun c => .ok c.message).toOption = some ("in custom function 'down': in custom function 'down': " ++
        "unknown function 'missing' with 1 argument(s)") := by
    decide +kernel
  cases selected : s.functions.select .function "down" [.integer 1] with
  | error c =>
      rw [selected] at chosen
      cases chosen
  | ok f =>
      rw [selected] at chosen
      cases custom : f.body with
      | native body =>
          have declared : f.isCustom = true := chosen
          rw [Function.isCustom, custom] at declared
          cases declared
      | custom g =>
          have closed := customFunctions_closed.1 s reachable .function "down" _ f g selected custom
          obtain ⟨alike, silent, -, -, harmless⟩ := closed
          cases outcome : (callFunction (eval 9) s .function "down" [.integer 1]).result with
          | ok v =>
              rw [outcome] at told
              have silence : "" = "in custom function 'down': in custom function 'down': " ++
                "unknown function 'missing' with 1 argument(s)" := Option.some.inj told
              exact absurd silence (by decide)
          | error c =>
              rw [outcome] at told
              refine ⟨d, s, f, g, c, rfl, reachable, selected, custom, silent 9, fun resolve => ?_,
                Option.some.inj told, ?_, native⟩
              · exact (congrArg Run.result (alike 9 resolve s.resolve)).trans outcome
              · exact Bool.eq_false_iff.mpr fun mentions => native (harmless 9 c outcome mentions)

end CardExpr
