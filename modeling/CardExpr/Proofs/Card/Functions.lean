import CardExpr.Card.Declarations
import CardExpr.Proofs.Evaluation.ReadOrder
import CardExpr.Proofs.Evaluation.Visits
import CardExpr.Proofs.Function.Registration

/-!
The functions of a card. They are compiled and added to a level over the built-in functions one after another;
the first one that does not compile, or whose name is taken, decides.
-/

namespace CardExpr

namespace Expression

def Mentions (e : Expression) (name : String) : Prop :=
  ∃ tree, e.meaning = .tree tree ∧ tree.Contains (.variable name)

variable {e : Expression} {name : String}

theorem mem_variableNames_iff : name ∈ e.variableNames ↔ e.Mentions name := by
  unfold variableNames Mentions
  cases meaning : e.meaning with
  | constant v => simp
  | tree tree =>
      unfold Expr.variableNames
      rw [mem_orderedSet, ← tree.contains_variable_iff]
      simp

theorem pairwise_variableNames (e : Expression) : e.variableNames.Pairwise (· < ·) := by
  unfold variableNames
  split
  · exact .nil
  · exact pairwise_nameSet _

/-- Of the names that are mentioned, those before one in the list are the smaller ones. -/
theorem exists_split_variableNames {p : String → Prop} (missing : ¬ p name) :
    (e.Mentions name ∧ ∀ other, e.Mentions other → ¬ p other → ¬ other < name) ↔
      ∃ before after, e.variableNames = before ++ name :: after ∧ ∀ other ∈ before, p other := by
  have ascending := e.pairwise_variableNames
  constructor
  · rintro ⟨mentions, least⟩
    obtain ⟨before, after, split⟩ := List.append_of_mem (mem_variableNames_iff.mpr mentions)
    refine ⟨before, after, split, fun other member => ?_⟩
    rw [split] at ascending
    have smaller := (List.pairwise_append.mp ascending).2.2 other member name List.mem_cons_self
    have mentioned := mem_variableNames_iff.mp (split ▸ List.mem_append_left _ member)
    by_contra absent
    exact least other mentioned absent smaller
  · rintro ⟨before, after, split, known⟩
    refine ⟨mem_variableNames_iff.mp (split ▸ List.mem_append_right _ List.mem_cons_self), ?_⟩
    intro other mentioned absent smaller
    have listed := mem_variableNames_iff.mpr mentioned
    rw [split] at listed ascending
    rcases List.mem_append.mp listed with earlier | later
    · exact absent (known other earlier)
    · rcases List.mem_cons.mp later with rfl | behind
      · exact lt_irrefl _ smaller
      · have larger := List.rel_of_pairwise_cons (List.pairwise_append.mp ascending).2.1 behind
        exact lt_irrefl _ (smaller.trans larger)

end Expression

namespace CustomFunction

/-- What a declaration compiles to, or the first reason why it does not: an argument that has the name of an
earlier one, a body that cannot be read, or a name in the body that is no argument, of which the smallest one
is reported. -/
inductive Compiles (d : FunctionDeclaration) : Except RegistryError CustomFunction → Prop where
  | repeated {before after : List String} {name : String}
      (split : d.arguments.map (·.name) = before ++ name :: after)
      (distinct : before.Nodup) (again : name ∈ before) : Compiles d (.error (.duplicateArgument d.name name))
  | unread {e : ExpressionError} (distinct : (d.arguments.map (·.name)).Nodup)
      (unparsed : Expression.parse d.body = .error e) : Compiles d (.error (.invalidBody d.name e))
  | unknown {body : Expression} {name : String} (distinct : (d.arguments.map (·.name)).Nodup)
      (parsed : Expression.parse d.body = .ok body) (mentions : body.Mentions name)
      (missing : name ∉ d.arguments.map (·.name))
      (least : ∀ other, body.Mentions other → other ∉ d.arguments.map (·.name) → ¬ other < name) :
      Compiles d (.error (.unknownArgument d.name name))
  | compiled {body : Expression} (distinct : (d.arguments.map (·.name)).Nodup)
      (parsed : Expression.parse d.body = .ok body)
      (closed : ∀ name, body.Mentions name → name ∈ d.arguments.map (·.name)) :
      Compiles d (.ok ⟨d.name, d.arguments, d.returnType, body⟩)

theorem firstRepeated_eq_some_iff (seen names : List String) (name : String) :
    firstRepeated seen names = some name ↔
      ∃ before after, names = before ++ name :: after ∧ (before.Nodup ∧ ∀ n ∈ before, n ∉ seen) ∧
        (name ∈ before ∨ name ∈ seen) := by
  induction names generalizing seen with
  | nil => simp [firstRepeated]
  | cons first rest ih =>
      unfold firstRepeated
      by_cases known : first ∈ seen
      · rw [if_pos (List.contains_iff_mem.mpr known), Option.some.injEq]
        constructor
        · rintro rfl
          exact ⟨[], rest, rfl, ⟨List.nodup_nil, fun _ member => absurd member List.not_mem_nil⟩, .inr known⟩
        · rintro ⟨_ | ⟨head, before⟩, after, split, ⟨-, fresh⟩, -⟩
          · exact (List.cons.inj split).1
          · cases split
            exact absurd known (fresh first List.mem_cons_self)
      · rw [if_neg (mt List.contains_iff_mem.mp known), ih]
        constructor
        · rintro ⟨before, after, rfl, ⟨distinct, fresh⟩, again⟩
          have once : first ∉ before := fun member => fresh first member List.mem_cons_self
          refine ⟨first :: before, after, rfl, ⟨List.nodup_cons.mpr ⟨once, distinct⟩, ?_⟩, ?_⟩
          · exact List.forall_mem_cons.mpr ⟨known, fun n member old =>
              fresh n member (List.mem_cons_of_mem _ old)⟩
          · rcases again with here | old
            · exact .inl (List.mem_cons_of_mem _ here)
            · rcases List.mem_cons.mp old with rfl | old
              · exact .inl List.mem_cons_self
              · exact .inr old
        · rintro ⟨_ | ⟨head, before⟩, after, split, ⟨distinct, fresh⟩, again⟩
          · cases split
            exact absurd (again.resolve_left List.not_mem_nil) known
          · cases split
            obtain ⟨once, distinct⟩ := List.nodup_cons.mp distinct
            refine ⟨before, after, rfl, ⟨distinct, fun n member old => ?_⟩, ?_⟩
            · rcases List.mem_cons.mp old with rfl | old
              · exact once member
              · exact fresh n (List.mem_cons_of_mem _ member) old
            · rcases again with here | old
              · rcases List.mem_cons.mp here with rfl | here
                · exact .inr List.mem_cons_self
                · exact .inl here
              · exact .inr (List.mem_cons_of_mem _ old)

theorem firstRepeated_eq_none (names : List String) (distinct : names.Nodup) :
    firstRepeated [] names = none := by
  rw [Option.eq_none_iff_forall_ne_some]
  intro name found
  obtain ⟨before, after, rfl, -, again⟩ := (firstRepeated_eq_some_iff [] names name).mp found
  have apart := (List.nodup_append.mp distinct).2.2
  exact apart name (again.resolve_right List.not_mem_nil) name List.mem_cons_self rfl

theorem compiles_compile (d : FunctionDeclaration) : Compiles d (compile d) := by
  unfold compile
  extract_lets names
  split
  next name found =>
    obtain ⟨before, after, split, ⟨distinct, -⟩, again⟩ := (firstRepeated_eq_some_iff [] names name).mp found
    exact .repeated split distinct (again.resolve_right List.not_mem_nil)
  next none =>
    have distinct := (nodup_of_firstRepeated none).1
    split
    next e unparsed => exact .unread distinct unparsed
    next body parsed =>
      split
      next name found =>
        obtain ⟨missing, before, after, split, known⟩ := List.find?_eq_some_iff_append.mp found
        have missing : name ∉ names := by simpa using missing
        have known : ∀ other ∈ before, other ∈ names := fun other member => by simpa using known other member
        obtain ⟨mentions, least⟩ := (Expression.exists_split_variableNames missing).mpr ⟨_, _, split, known⟩
        exact .unknown distinct parsed mentions missing least
      next all =>
        refine .compiled distinct parsed fun n mentions => ?_
        simpa [names] using List.find?_eq_none.mp all n (Expression.mem_variableNames_iff.mpr mentions)

theorem compile_of_compiles {d : FunctionDeclaration} {outcome : Except RegistryError CustomFunction}
    (compiles : Compiles d outcome) : compile d = outcome := by
  unfold compile
  extract_lets names
  cases compiles with
  | repeated split distinct again =>
      have found := (firstRepeated_eq_some_iff [] names _).mpr
        ⟨_, _, split, ⟨distinct, fun _ _ => List.not_mem_nil⟩, .inl again⟩
      rw [found]
  | unread distinct unparsed => rw [firstRepeated_eq_none names distinct, unparsed]
  | @unknown body name distinct parsed mentions missing least =>
      obtain ⟨before, after, split, known⟩ :=
        (Expression.exists_split_variableNames missing).mp ⟨mentions, least⟩
      have found : body.variableNames.find? (fun v => !names.contains v) = some name := by
        refine List.find?_eq_some_iff_append.mpr ⟨by simpa [names] using missing, before, after, split, ?_⟩
        exact fun n member => by simpa [names] using known n member
      rw [firstRepeated_eq_none names distinct, parsed]
      dsimp only
      rw [found]
  | @compiled body distinct parsed closed =>
      have all : body.variableNames.find? (fun v => !names.contains v) = none :=
        List.find?_eq_none.mpr fun n member => by
          simpa [names] using closed n (Expression.mem_variableNames_iff.mp member)
      rw [firstRepeated_eq_none names distinct, parsed]
      dsimp only
      rw [all]

theorem compile_eq_iff (d : FunctionDeclaration) (outcome : Except RegistryError CustomFunction) :
    compile d = outcome ↔ Compiles d outcome := by
  constructor
  · rintro rfl
    exact compiles_compile d
  · exact compile_of_compiles

end CustomFunction

namespace Registry

/-- Declarations that are added to a registry in their order, until one is refused. -/
inductive Enlists : Registry → List FunctionDeclaration → Except RegistryError Registry → Prop where
  | nil (r : Registry) : Enlists r [] (.ok r)
  | uncompiled {r : Registry} {d : FunctionDeclaration} {ds : List FunctionDeclaration} {e : RegistryError}
      (fails : CustomFunction.Compiles d (.error e)) : Enlists r (d :: ds) (.error e)
  | taken {r : Registry} {d : FunctionDeclaration} {ds : List FunctionDeclaration} {g : CustomFunction}
      (compiles : CustomFunction.Compiles d (.ok g)) (taken : r.Takes d.name g.signature.arity) :
      Enlists r (d :: ds) (.error (.duplicateFunction d.name g.signature.arity.least))
  | cons {r : Registry} {d : FunctionDeclaration} {ds : List FunctionDeclaration} {g : CustomFunction}
      {outcome : Except RegistryError Registry} (compiles : CustomFunction.Compiles d (.ok g))
      (free : ¬ r.Takes d.name g.signature.arity) (later : Enlists (r.add .function (d.compiled g))
        ds outcome) :
      Enlists r (d :: ds) outcome

theorem registerCustom_of_compiles {r : Registry} {d : FunctionDeclaration} {g : CustomFunction}
    (compiles : CustomFunction.Compiles d (.ok g)) : r.registerCustom d = r.insert (d.compiled g) := by
  unfold registerCustom
  rw [CustomFunction.compile_of_compiles compiles]
  rfl

theorem registerAll_of_error {r : Registry} {d : FunctionDeclaration} {ds : List FunctionDeclaration}
    {e : RegistryError} (refused : r.registerCustom d = .error e) : r.registerAll (d :: ds) = .error e := by
  unfold registerAll
  rw [List.foldlM_cons, refused]
  rfl

theorem registerAll_of_ok {r t : Registry} {d : FunctionDeclaration} {ds : List FunctionDeclaration}
    (done : r.registerCustom d = .ok t) : r.registerAll (d :: ds) = t.registerAll ds := by
  unfold registerAll
  rw [List.foldlM_cons, done]
  rfl

theorem enlists_registerAll (r : Registry) (ds : List FunctionDeclaration) :
    r.Enlists ds (r.registerAll ds) := by
  induction ds generalizing r with
  | nil => exact .nil r
  | cons d ds ih =>
      cases compiled : CustomFunction.compile d with
      | error e =>
          have refused : r.registerCustom d = .error e := by
            unfold registerCustom
            rw [compiled]
            rfl
          rw [registerAll_of_error refused]
          exact .uncompiled ((CustomFunction.compile_eq_iff d _).mp compiled)
      | ok g =>
          have compiles := (CustomFunction.compile_eq_iff d _).mp compiled
          have same := registerCustom_of_compiles (r := r) compiles
          by_cases takes : r.Takes d.name g.signature.arity
          · rw [registerAll_of_error (same.trans ((insert_eq_error_iff _).mpr ⟨takes, rfl⟩))]
            exact .taken compiles takes
          · rw [registerAll_of_ok (same.trans (insert_eq_ok_iff.mpr ⟨takes, rfl⟩))]
            exact .cons compiles takes (ih _)

theorem registerAll_eq_iff (r : Registry) (ds : List FunctionDeclaration)
    (outcome : Except RegistryError Registry) :
    r.registerAll ds = outcome ↔ r.Enlists ds outcome := by
  constructor
  · rintro rfl
    exact enlists_registerAll r ds
  · intro enlists
    induction enlists with
    | nil r => rfl
    | @uncompiled r d _ _ fails =>
        apply registerAll_of_error
        unfold registerCustom
        rw [CustomFunction.compile_of_compiles fails]
        rfl
    | taken compiles takes =>
        apply registerAll_of_error
        rw [registerCustom_of_compiles compiles]
        exact (insert_eq_error_iff _).mpr ⟨takes, rfl⟩
    | cons compiles free _ ih =>
        rw [registerAll_of_ok, ih]
        rw [registerCustom_of_compiles compiles]
        exact insert_eq_ok_iff.mpr ⟨free, rfl⟩

end Registry

namespace CardDeclarations

/-- The functions of a card: the built-in ones, if it declares none. -/
inductive Layers (d : CardDeclarations) : Except RegistryError Registry → Prop where
  | builtins (none : d.functions = []) : Layers d (.ok .builtins)
  | child {outcome : Except RegistryError Registry} (some : d.functions ≠ [])
      (enlists : Registry.builtins.child.Enlists d.functions outcome) : Layers d outcome

theorem registry_of_nil {d : CardDeclarations} (none : d.functions = []) : d.registry = .ok .builtins :=
  if_pos (List.isEmpty_iff.mpr none)

theorem registry_of_ne_nil {d : CardDeclarations} (some : d.functions ≠ []) :
    d.registry = (Registry.builtins.child.registerAll d.functions).mapError .registry :=
  if_neg (mt List.isEmpty_iff.mp some)

theorem mapError_registry_of_layers {d : CardDeclarations} {outcome : Except RegistryError Registry}
    (layers : d.Layers outcome) : d.registry = outcome.mapError .registry := by
  cases layers with
  | builtins none => rw [registry_of_nil none, Except.mapError]
  | child some enlists => rw [registry_of_ne_nil some, (Registry.registerAll_eq_iff _ _ _).mpr enlists]

theorem exists_layers (d : CardDeclarations) : ∃ outcome, d.Layers outcome := by
  by_cases none : d.functions = []
  · exact ⟨_, .builtins none⟩
  · exact ⟨_, .child none (Registry.enlists_registerAll _ _)⟩

theorem registry_eq_ok_iff (d : CardDeclarations) (r : Registry) : d.registry = .ok r ↔ d.Layers (.ok r) := by
  constructor
  · intro done
    obtain ⟨outcome, layers⟩ := d.exists_layers
    rw [mapError_registry_of_layers layers] at done
    cases outcome with
    | error c => cases done
    | ok t => exact Except.ok.inj done ▸ layers
  · exact mapError_registry_of_layers

theorem registry_eq_error_iff (d : CardDeclarations) (e : DeclarationError) :
    d.registry = .error e ↔ ∃ c, e = .registry c ∧ d.Layers (.error c) := by
  constructor
  · intro refused
    obtain ⟨outcome, layers⟩ := d.exists_layers
    rw [mapError_registry_of_layers layers] at refused
    cases outcome with
    | error c =>
        cases refused
        exact ⟨c, rfl, layers⟩
    | ok t => cases refused
  · rintro ⟨c, rfl, layers⟩
    exact mapError_registry_of_layers layers

end CardDeclarations

end CardExpr
