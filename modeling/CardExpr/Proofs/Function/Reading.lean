import CardExpr.Proofs.Function.Dispatch

/-!
What functions read. Of the built-in ones only the getters read a variable, and only the one that their first
argument names.
-/

namespace CardExpr

/-- The running function may ask for the variable, depending on what it is told. -/
def Action.MayRead : Action → String → Prop
  | .done _, _ => False
  | .read name next, wanted => name = wanted ∨ ∃ found, (next found).MayRead wanted
  | .warn _ next, wanted => next.MayRead wanted

theorem mayRead_of_mem_answer {s : Setting} {callee : String} {action : Action} {read : VariableRead}
    (member : read ∈ (answer s callee action).reads) : action.MayRead read.name := by
  induction action with
  | done result => cases member
  | read name next ih =>
      rcases List.mem_cons.mp member with rfl | later
      · exact .inl rfl
      · exact .inr ⟨_, ih _ later⟩
  | warn message next ih => exact ih member

/-- The function asks for no variable, whatever it is called with. -/
def Function.Silent (f : Function) : Prop :=
  ∀ body, f.body = .native body → ∀ site args name, ¬ (body site args).MayRead name

theorem Args.string_eq_ok {args : Args} {index : Nat} {text : String} (read : args.string index = .ok text) :
    args.values[index]? = some (.string text) := by
  unfold string get at read
  cases found : args.values[index]? with
  | none =>
      rw [found] at read
      cases read
  | some v =>
      rw [found] at read
      cases v <;> cases read
      rfl

/-- A function that is handed a text was given it: no argument is widened to one. -/
theorem Function.Widens.string_given {f : Function} {values : List Value} {args : Args} {i : Nat}
    {text : String} (widens : f.Widens values args) (handed : args.values[i]? = some (.string text)) :
    values[i]? = some (.string text) := by
  have within : i < values.length := by
    rw [← widens.length_eq]
    exact (List.getElem?_eq_some_iff.mp handed).1
  have found := List.getElem?_eq_getElem within
  by_cases widened : ∃ n, values[i] = .integer n ∧ f.signature.Has i (.of .number)
  · obtain ⟨n, integer, has⟩ := widened
    rw [integer] at found
    cases (widens.widened i n found has).symm.trans handed
  · have kept := widens.kept i _ found fun n integer has => widened ⟨n, integer, has⟩
    rw [found]
    exact kept.symm.trans handed

namespace Builtin

theorem silent_native {kind : CallKind} {name : String} {signature : Signature} {body : NativeBody}
    (silent : ∀ site args wanted, ¬ (body site args).MayRead wanted) :
    (Entry.mk kind ⟨name, signature, .native body⟩).function.Silent := by
  intro other same
  cases same
  exact silent

theorem silent_pure {kind : CallKind} {name : String} {signature : Signature}
    (f : Args → Except EvalError Value) :
    (Entry.mk kind ⟨name, signature, .native (.pure f)⟩).function.Silent :=
  silent_native fun _ _ _ => id

theorem padWith_silent (join : List Char → List Char → List Char) (site : CallSite) (args : Args)
    (wanted : String) :
    ¬ (padWith join site args).MayRead wanted := by
  unfold padWith
  extract_lets parts
  cases parts with
  | error c => exact id
  | ok parts =>
      dsimp only
      split
      · exact id
      · split <;> exact id

theorem strings_silent : ∀ e ∈ strings, e.function.Silent := by
  simp only [strings, List.forall_mem_cons, List.not_mem_nil, false_implies, implies_true, and_true]
  and_intros
  all_goals first
    | exact silent_native (padWith_silent _)
    | exact silent_pure _

theorem math_silent : ∀ e ∈ math, e.function.Silent := by
  simp only [math, unaryMath, binaryMath, variadicMath, List.forall_mem_append, List.forall_mem_cons,
    List.not_mem_nil, false_implies, implies_true, and_true]
  and_intros
  all_goals exact silent_pure _

theorem conversions_silent : ∀ e ∈ conversions, e.function.Silent := by
  simp only [conversions, List.forall_mem_cons, List.not_mem_nil, false_implies, implies_true, and_true]
  and_intros
  all_goals exact silent_pure _

theorem colors_silent : ∀ e ∈ colors, e.function.Silent := by
  simp only [colors, channels, List.flatMap_cons, List.flatMap_nil, List.forall_mem_append,
    List.forall_mem_cons, List.not_mem_nil, false_implies, implies_true, and_true]
  and_intros
  all_goals exact silent_pure _

theorem instants_silent : ∀ e ∈ instants, e.function.Silent := by
  simp only [instants, List.forall_mem_cons, List.not_mem_nil, false_implies, implies_true, and_true]
  and_intros
  all_goals first
    | exact silent_pure _
    | exact silent_native fun _ _ _ => id

theorem lookups_silent : ∀ e ∈ lookups, e.function.Silent := by
  simp only [lookups, List.forall_mem_append, List.forall_mem_cons, List.mem_flatMap, List.not_mem_nil,
    false_implies, implies_true, and_true]
  refine ⟨?_, ?_⟩
  · rintro e ⟨⟨t, name⟩, -, member⟩
    revert e
    simp only [typedLookups, List.forall_mem_cons, List.not_mem_nil, false_implies, implies_true, and_true]
    and_intros
    all_goals exact silent_pure _
  · and_intros
    all_goals exact silent_pure _

theorem silent_or_getter : ∀ e ∈ entries, e.function.Silent ∨ e ∈ getters := by
  have others : ∀ e ∈ strings ++ math ++ conversions ++ colors ++ instants ++ lookups, e.function.Silent := by
    simp only [List.forall_mem_append]
    exact ⟨⟨⟨⟨⟨strings_silent, math_silent⟩, conversions_silent⟩, colors_silent⟩, instants_silent⟩,
      lookups_silent⟩
  intro e member
  exact (List.mem_append.mp member).imp_left (others e)

/-- A getter reads the variable that its first argument names. -/
theorem string_of_getValue {t : ValueType} {site : CallSite} {args : Args} {wanted : String}
    (reads : (getValue t site args).MayRead wanted) : args.string 0 = .ok wanted := by
  unfold getValue at reads
  cases named : args.string 0 with
  | error c =>
      rw [named] at reads
      exact reads.elim
  | ok name =>
      rw [named] at reads
      rcases reads with rfl | ⟨found, later⟩
      · rfl
      · exfalso
        dsimp only at later
        split at later
        · exact later
        · split at later
          · exact later
          · split at later
            · exact later
            · split at later <;> exact later

def getterNames : List String := elementTypes.map fun entry => "get" ++ entry.2 ++ "Value"

end Builtin

namespace Registry

theorem Reachable.name_of_select {r : Registry} (reachable : r.Reachable) {kind : CallKind} {name : String}
    {values : List Value} {f : Function} (selected : r.select kind name values = .ok f) : f.name = name := by
  obtain ⟨own, outer, registered⟩ := reachable.registered
  cases (settles_of_registered registered _).mp selected with
  | @selected before after _ listed =>
      have member : f ∈ offered (own :: outer) kind name := by simp [listed]
      obtain ⟨entry, named, rfl⟩ := List.mem_map.mp member
      exact (of_decide_eq_true (List.mem_filter.mp named).2).2

/-- A built-in function that reads a variable is a getter, and its first argument is the name. -/
theorem getter_of_mayRead {r : Registry} (reachable : r.Reachable) {kind : CallKind} {callee : String}
    {values : List Value} {f : Function} {args : Args} {body : NativeBody} {site : CallSite} {name : String}
    (selected : r.select kind callee values = .ok f) (checked : f.checkArgs values = .ok args)
    (native : f.body = .native body) (builtin : f.IsBuiltin kind) (reads : (body site args).MayRead name) :
    kind = .function ∧ callee ∈ Builtin.getterNames ∧ ∃ rest, values = .string name :: rest := by
  rcases Builtin.silent_or_getter _ builtin with silent | getter
  · exact absurd reads (silent body native site args name)
  · obtain ⟨⟨t, suffix⟩, listed, same⟩ := List.mem_map.mp getter
    cases same
    cases native
    refine ⟨rfl, ?_, ?_⟩
    · rw [← reachable.name_of_select selected]
      exact List.mem_map.mpr ⟨(t, suffix), listed, rfl⟩
    · have handed := Args.string_eq_ok (Builtin.string_of_getValue reads)
      have given := (Function.widens_of_checkArgs checked).string_given handed
      cases values with
      | nil => cases given
      | cons v rest =>
          cases given
          exact ⟨rest, rfl⟩

end Registry

end CardExpr
