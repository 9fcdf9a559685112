import CardExpr.Command.Basic
import CardExpr.Proofs.Command.Declaration
import CardExpr.Proofs.Json.Equality

/-!
Evaluating from the command line. The steps are taken one after another; the first one that fails decides, and
an evaluation sees of all that went before only what each name came to.
-/

namespace CardExpr.Command

inductive Supplies (request : EvalRequest) : Except CommandError CardDeclarations → Prop where
  | nothing (absent : request.declarations = none) : Supplies request (.ok {})
  | text {text : String} {outcome : Except CommandError CardDeclarations}
      (present : request.declarations = some text)
      (reads : Reads text outcome) : Supplies request outcome

/-- The variables of a text of declarations, and the functions of a card over the built-in ones. -/
structure Prepares (request : EvalRequest) (file : Variables) (functions : Registry) : Prop where
  declared : ∃ d, Supplies request (.ok d) ∧ Declares d file ∧ d.Layers (.ok functions)

/-- The values of the variables, which are all that an evaluation sees of them. -/
def plain (vars : Variables) : Resolver := fun name => (vars name).map fun held => ⟨held.value, none⟩

/-- How a request ends: by the first of its steps that fails, or with the value of its expression. -/
inductive Ends (now : Calendar.DateTime) (request : EvalRequest) : Except CommandError Value → Prop where
  | text {e : CommandError} (unread : Supplies request (.error e)) : Ends now request (.error e)
  | variables {d : CardDeclarations} {e : VariableError} (supplies : Supplies request (.ok d))
      (refused : Misdeclares d e) : Ends now request (.error (.declaration (.variable e)))
  | functions {d : CardDeclarations} {file : Variables} {e : RegistryError}
      (supplies : Supplies request (.ok d)) (declares : Declares d file) (refused : d.Layers (.error e)) :
      Ends now request (.error (.declaration (.registry e)))
  | assignment {file vars : Variables} {functions : Registry} {before after : List String} {text : String}
      {e : CommandError} (prepares : Prepares request file functions)
      (split : request.assignments = before ++ text :: after) (known : Known file before vars)
      (refused : Refuses vars text e) : Ends now request (.error e)
  | expression {file vars : Variables} {functions : Registry} {e : ExpressionError}
      (prepares : Prepares request file functions) (known : Known file request.assignments vars)
      (unparsed : Expression.parse request.expression request.config = .error e) :
      Ends now request (.error (.expression e))
  | evaluation {file vars : Variables} {functions : Registry} {expression : Expression} {e : EvaluationError}
      (prepares : Prepares request file functions) (known : Known file request.assignments vars)
      (parsed : Expression.parse request.expression request.config = .ok expression)
      (failed : (evaluate ⟨plain vars, functions, request.config, now⟩ expression).result = .error e) :
      Ends now request (.error (.evaluation e))
  | value {file vars : Variables} {functions : Registry} {expression : Expression} {v : Value}
      (prepares : Prepares request file functions) (known : Known file request.assignments vars)
      (parsed : Expression.parse request.expression request.config = .ok expression)
      (done : (evaluate ⟨plain vars, functions, request.config, now⟩ expression).result = .ok v) :
      Ends now request (.ok v)

def EvalRequest.read (request : EvalRequest) : Except CommandError CardDeclarations :=
  match request.declarations with
  | some text => readDeclarations text
  | none => .ok {}

theorem read_eq_iff (request : EvalRequest) (outcome : Except CommandError CardDeclarations) :
    request.read = outcome ↔ Supplies request outcome := by
  unfold EvalRequest.read
  constructor
  · intro read
    cases declarations : request.declarations with
    | none =>
        rw [declarations] at read
        exact read ▸ .nothing declarations
    | some text =>
        rw [declarations] at read
        exact .text declarations ((readDeclarations_eq_iff text outcome).mp read)
  · intro supplies
    cases supplies with
    | nothing absent => rw [absent]
    | text present reads =>
        rw [present]
        exact (readDeclarations_eq_iff _ outcome).mpr reads

def proceed (now : Calendar.DateTime) (request : EvalRequest) (functions : Registry) (s : Stores) :
    Except CommandError EvalReport := do
  let stores ← request.assignments.foldlM (assign · 0) s
  let expression ← (Expression.parse request.expression request.config).mapError .expression
  let evaluation := evaluate ⟨stores.resolver 0, functions, request.config, now⟩ expression
  let value ← evaluation.result.mapError .evaluation
  pure ⟨value, evaluation.reads, evaluation.warnings⟩

theorem evaluateRequest_eq (now : Calendar.DateTime) (request : EvalRequest) :
    evaluateRequest now request = (do
      let d ← request.read
      let declared ← (d.declareVariables (Stores.create {} none).2 0).mapError .declaration
      let functions ← d.registry.mapError .declaration
      proceed now request functions declared.stores) := by
  unfold evaluateRequest EvalRequest.read
  cases request.declarations <;> rfl

variable {now : Calendar.DateTime} {request : EvalRequest} {s : Stores} {file vars : Variables}
  {functions : Registry}

theorem Shows.result_eq (shows : Shows s vars) (functions : Registry) (config : Config)
    (now : Calendar.DateTime) (e : Expression) :
    (evaluate ⟨s.resolver 0, functions, config, now⟩ e).result =
      (evaluate ⟨plain vars, functions, config, now⟩ e).result := by
  have same : (s.resolver 0).SameValues (plain vars) := by
    intro name
    unfold plain Stores.resolver Stores.lookup
    rw [shows.chain_eq, List.findSome?_cons, shows.own_eq]
    cases vars name <;> rfl
  exact (evaluate_alike ⟨s.resolver 0, functions, config, now⟩ (plain vars) same e).1.symm

theorem proceed_of_parsed {t : Stores} {expression : Expression} (shown : Shows t vars)
    (assigned : request.assignments.foldlM (assign · 0) s = .ok t)
    (parsed : Expression.parse request.expression request.config = .ok expression) :
    (proceed now request functions s).map (·.value) =
      (evaluate ⟨plain vars, functions, request.config, now⟩ expression).result.mapError .evaluation := by
  rw [← shown.result_eq]
  unfold proceed
  rw [assigned, parsed]
  show ((Except.mapError CommandError.evaluation _) >>= fun _ => _).map _ = _
  cases (evaluate ⟨t.resolver 0, functions, request.config, now⟩ expression).result <;> rfl

theorem Shows.ends_of_proceed (shows : Shows s file) (prepares : Prepares request file functions) :
    Ends now request ((proceed now request functions s).map (·.value)) := by
  cases assigned : request.assignments.foldlM (assign · 0) s with
  | error e =>
      obtain ⟨before, text, after, vars, split, known, refused⟩ := (shows.foldlM_eq_error_iff e).mp assigned
      unfold proceed
      rw [assigned]
      exact .assignment prepares split known refused
  | ok t =>
      obtain ⟨vars, shown, known⟩ := shows.known_of_foldlM assigned
      cases parsed : Expression.parse request.expression request.config with
      | error e =>
          unfold proceed
          rw [assigned, parsed]
          exact .expression prepares known parsed
      | ok expression =>
          rw [proceed_of_parsed shown assigned parsed]
          cases result : (evaluate ⟨plain vars, functions, request.config, now⟩ expression).result with
          | error e => exact .evaluation prepares known parsed result
          | ok v => exact .value prepares known parsed result

theorem ends (now : Calendar.DateTime) (request : EvalRequest) :
    Ends now request ((evaluateRequest now request).map (·.value)) := by
  rw [evaluateRequest_eq]
  cases read : request.read with
  | error e => exact .text ((read_eq_iff request _).mp read)
  | ok d =>
      have supplies := (read_eq_iff request _).mp read
      cases declared : d.declareVariables (Stores.create {} none).2 0 with
      | error e =>
          obtain ⟨c, rfl, refused⟩ := (shows_create.declareVariables_eq_error_iff e).mp declared
          show Ends now request
            ((((d.declareVariables _ 0).mapError CommandError.declaration) >>= fun _ => _).map _)
          rw [declared]
          exact .variables supplies refused
      | ok m =>
          obtain ⟨file, shows, declares⟩ := shows_create.declares_of_declareVariables declared
          show Ends now request
            ((((d.declareVariables _ 0).mapError CommandError.declaration) >>= fun _ => _).map _)
          rw [declared]
          cases registered : d.registry with
          | error e =>
              obtain ⟨c, rfl, refused⟩ := (d.registry_eq_error_iff e).mp registered
              exact .functions supplies declares refused
          | ok functions =>
              exact shows.ends_of_proceed ⟨d, supplies, declares,
                (d.registry_eq_ok_iff functions).mp registered⟩

theorem Prepares.exists_proceed (prepares : Prepares request file functions) (now : Calendar.DateTime) :
    ∃ s, Shows s file ∧ evaluateRequest now request = proceed now request functions s := by
  obtain ⟨d, supplies, declares, layers⟩ := prepares.declared
  obtain ⟨m, declared, shows⟩ := shows_create.exists_declareVariables declares
  refine ⟨m.stores, shows, ?_⟩
  rw [evaluateRequest_eq, (read_eq_iff request _).mpr supplies]
  show ((d.declareVariables _ 0).mapError CommandError.declaration >>= fun _ =>
    d.registry.mapError _ >>= fun _ => _) = _
  rw [declared, (d.registry_eq_ok_iff functions).mpr layers]
  rfl

theorem eq_of_ends {outcome : Except CommandError Value} (ends : Ends now request outcome) :
    (evaluateRequest now request).map (·.value) = outcome := by
  cases ends with
  | text unread =>
      rw [evaluateRequest_eq, (read_eq_iff request _).mpr unread]
      rfl
  | @«variables» d e supplies refused =>
      rw [evaluateRequest_eq, (read_eq_iff request _).mpr supplies]
      show (((d.declareVariables _ 0).mapError CommandError.declaration) >>= fun _ => _).map _ = _
      rw [(shows_create.declareVariables_eq_error_iff _).mpr ⟨e, rfl, refused⟩]
      rfl
  | @functions d file e supplies declares refused =>
      obtain ⟨m, declared, -⟩ := shows_create.exists_declareVariables declares
      rw [evaluateRequest_eq, (read_eq_iff request _).mpr supplies]
      show (((d.declareVariables _ 0).mapError CommandError.declaration) >>= fun _ =>
        d.registry.mapError _ >>= fun _ => _).map _ = _
      rw [declared, (d.registry_eq_error_iff _).mpr ⟨e, rfl, refused⟩]
      rfl
  | assignment prepares split known refused =>
      obtain ⟨s, shows, same⟩ := prepares.exists_proceed now
      rw [same]
      unfold proceed
      rw [(shows.foldlM_eq_error_iff _).mpr ⟨_, _, _, _, split, known, refused⟩]
      rfl
  | expression prepares known unparsed =>
      obtain ⟨s, shows, same⟩ := prepares.exists_proceed now
      obtain ⟨t, assigned, -⟩ := shows.exists_foldlM known
      rw [same]
      unfold proceed
      rw [assigned, unparsed]
      rfl
  | evaluation prepares known parsed failed =>
      obtain ⟨s, shows, same⟩ := prepares.exists_proceed now
      obtain ⟨t, assigned, shown⟩ := shows.exists_foldlM known
      rw [same, proceed_of_parsed shown assigned parsed, failed]
      rfl
  | value prepares known parsed done =>
      obtain ⟨s, shows, same⟩ := prepares.exists_proceed now
      obtain ⟨t, assigned, shown⟩ := shows.exists_foldlM known
      rw [same, proceed_of_parsed shown assigned parsed, done]
      rfl

/-- A request ends by the first of its steps that fails: reading the text of declarations, declaring the
variables and the functions, the assignments from left to right, reading the expression, and evaluating it
over nothing but the values of the names. A text is a card, which declares the elements of its arrays in their
order, or an object of names and values. A name stands for what its own assignments come to: its type is the
one that the declarations give it, or that of its first value, and of the values that it is given, read as
that type, it holds the last one, or the one before that was the same. An object of names and values without a
null is declared as a whole, each value by its name and by the type that it has of itself. -/
theorem evaluateRequest_exact :
    (∀ (now : Calendar.DateTime) (request : EvalRequest) (outcome : Except CommandError Value),
      (evaluateRequest now request).map (·.value) = outcome ↔ Ends now request outcome) ∧
    (∀ (text : String) (outcome : Except CommandError CardDeclarations),
      readDeclarations text = outcome ↔ Reads text outcome) ∧
    (∀ (held : Held) (jsons : List Json) (last : Option Held), Comes (some held) jsons last →
      ∃ final, last = some final ∧ final.type = held.type) ∧
    (∀ (json : Json) (jsons : List Json) (last : Option Held), Comes none (json :: jsons) last →
      ∃ value final, json.SpellsValue value ∧ last = some final ∧ final.type = value.type) ∧
    (∀ (held : Option Held) (jsons : List Json) (json : Json)
      (last : Option Held), Comes held (jsons ++ [json]) last →
      ∃ final value, last = some final ∧ json.SpellsAs final.type value ∧
        (final.value = value ∨ final.value.same value = true)) ∧
    ∀ (text : String) (members : List (String × Json)), Json.read? text = some (.object members) →
      ¬ CardShaped members → (∀ name json, (name, json) ∈ members → ¬ json.HasNull) →
      ∃ d file, Reads text (.ok d) ∧ Declares d file ∧ d.Layers (.ok .builtins) ∧
        (∀ name json, (name, json) ∈ members →
          ∃ value, Value.ofJson json = .ok value ∧ json.SpellsValue value ∧
          file name = some ⟨value.type, value⟩) ∧
        ∀ name, name ∉ members.map (·.1) → file name = none := by
  refine ⟨fun now request outcome => ⟨?_, eq_of_ends⟩, readDeclarations_eq_iff, fun _ _ _ => Comes.type_eq,
    fun _ _ _ => Comes.type_of_fresh, fun _ _ _ _ => Comes.last_spelled, fun _ _ => declares_flat⟩
  rintro rfl
  exact ends now request

/-- A declared integer is overwritten, and a new name is given the same value again. Where a text is no
integer, the expression behind it is not read any more. A card declares a one as a boolean, and a function. -/
theorem evaluateRequest_exact_of_same_value :
    ∃ (request refused card : EvalRequest) (text cardText : String) (d : CardDeclarations) (file : Variables),
      request.declarations = some text ∧ refused.declarations = some text ∧
      card.declarations = some cardText ∧
        Ends .epoch request (.ok (.integer 5)) ∧
        Ends .epoch refused (.error (.conversion ⟨.integer, "\"a\""⟩)) ∧
        Ends .epoch card (.ok (.integer 3)) ∧
        readDeclarations cardText = .ok ⟨[⟨"n", .boolean, .number (.int 1)⟩],
          [⟨"f", [⟨"a", .integer⟩], .integer, "@\x7ba + 1\x7d"⟩]⟩ ∧
        Reads text (.ok d) ∧ Declares d file ∧ file "n" = some ⟨.integer, .integer 1⟩ ∧ file "m" = none ∧
        (∃ final, Comes (file "n") [.number (.int 2)] (some final) ∧ final.type = .integer) ∧
        ∃ final value, Comes (file "m") [.number (.int 3), .number (.int 3)] (some final) ∧
        final.type = .integer ∧
          Json.SpellsAs (.number (.int 3)) final.type value ∧
          (final.value = value ∨ final.value.same value = true) := by
  let text : String := "\x7b\"n\": 1, \"s\": \"a\"\x7d"
  let cardText : String :=
    "\x7b\"variables\": [\x7b\"name\": \"n\", \"type\": \"boolean\", \"value\": 1\x7d], " ++
      "\"functions\": [[\"f\", [[\"a\", \"integer\"]], \"integer\", \"@\x7ba + 1\x7d\"]]\x7d"
  let request : EvalRequest :=
    { expression := "@\x7bn + m\x7d", declarations := some text, assignments := ["n = 2", "m=3", "m=3"] }
  let refused : EvalRequest := { request with expression := "@\x7b", assignments := ["n=2", "n=a", "=1"] }
  let card : EvalRequest :=
    { expression := "@\x7bn ? f(2) : 0\x7d", declarations := some cardText, assignments := [] }
  obtain ⟨decides, reads, kept, fresh, last, flat⟩ := evaluateRequest_exact
  have five : (evaluateRequest .epoch request).map (·.value) = .ok (.integer 5) :=
    Value.eq_ok_of_same (fun v => (v.same_integer_iff 5).mp) (by decide +kernel)
  have called : (evaluateRequest .epoch card).map (·.value) = .ok (.integer 3) :=
    Value.eq_ok_of_same (fun v => (v.same_integer_iff 3).mp) (by decide +kernel)
  let n : Json := .object [("name", .string "n"), ("type", .string "boolean"), ("value", .number (.int 1))]
  let a : Json := .array [.string "a", .string "integer"]
  let f : Json := .array [.string "f", .array [a], .string "integer", .string "@\x7ba + 1\x7d"]
  let members : List (String × Json) := [("functions", .array [f]), ("variables", .array [n])]
  have cardRead : Json.read? cardText = some (.object members) := Json.eq_some_of_equals (by decide +kernel)
  have shaped : CardShaped members := by
    refine ⟨List.cons_ne_nil _ _, fun name json member => ?_⟩
    rcases List.mem_cons.mp member with same | later
    · cases same
      exact ⟨.inr rfl, [f], rfl⟩
    · cases List.mem_singleton.mp later
      exact ⟨.inl rfl, [n], rfl⟩
  have spellsVariable : n.SpellsVariable ⟨"n", .boolean, .number (.int 1)⟩ :=
    .intro (.member List.mem_cons_self) (.member (.tail _ (.head _))) (.name .boolean)
      (.member (.tail _ (.tail _ (.head _))))
  have spellsArgument : a.SpellsArgument ⟨"a", .integer⟩ :=
    .intro (.item (Nat.le_refl 2) (i := 0) rfl rfl) (.item (Nat.le_refl 2) (i := 1) rfl rfl) (.name .integer)
  have spellsFunction : f.SpellsFunction ⟨"f", [⟨"a", .integer⟩], .integer, "@\x7ba + 1\x7d"⟩ :=
    .intro (.item (Nat.le_refl 4) (i := 0) rfl rfl) (.item (Nat.le_refl 4) (i := 1) rfl rfl)
      (.array (.cons spellsArgument .nil)) (.item (Nat.le_refl 4) (i := 2) rfl rfl) (.name .integer)
      (.item (Nat.le_refl 4) (i := 3) rfl rfl)
  have spells : (Json.object members).SpellsCard ⟨[⟨"n", .boolean, .number (.int 1)⟩],
      [⟨"f", [⟨"a", .integer⟩], .integer, "@\x7ba + 1\x7d"⟩]⟩ :=
    .intro (.member (.tail _ (.head _))) (.array (.cons spellsVariable .nil)) (.member List.mem_cons_self)
      (.array (.cons spellsFunction .nil))
  have read : Json.read? text = some (.object [("n", .number (.int 1)), ("s", .string "a")]) :=
    Json.eq_some_of_equals (by decide +kernel)
  have unshaped : ¬ CardShaped [("n", .number (.int 1)), ("s", .string "a")] := by
    intro shaped
    have named := (shaped.only "n" _ List.mem_cons_self).1
    exact absurd named (by decide)
  obtain ⟨d, file, done, declares, layers, holds, others⟩ := flat text _ read unshaped (by
    intro name json member within
    simp only [List.mem_cons, Prod.mk.injEq, List.not_mem_nil, or_false] at member
    rcases member with ⟨-, rfl⟩ | ⟨-, rfl⟩ <;> cases within)
  obtain ⟨value, known, -, first⟩ := holds "n" (.number (.int 1)) List.mem_cons_self
  cases known
  have unknown : file "m" = none := others "m" (by simp)
  have two : Spells "n=2" "n" (.number (.int 2)) :=
    .intro (show "n=2".toList = ['n'] ++ '=' :: ['2'] from rfl) (by decide) (by decide)
      (.json (Json.eq_some_of_equals (by decide +kernel)))
  have letter : Spells "n=a" "n" (.string "a") :=
    .intro (show "n=a".toList = ['n'] ++ '=' :: ['a'] from rfl) (by decide) (by decide)
      (.text (by decide +kernel))
  have assigned : Known file ["n=2"] (Function.update file "n" (some ⟨.integer, .integer 2⟩)) :=
    known_cons.mpr ⟨_, .intro two (first.symm ▸ .written (.integer rfl) rfl), known_nil.mpr rfl⟩
  have mistyped : Refuses (Function.update file "n" (some ⟨.integer, .integer 2⟩)) "n=a"
      (.conversion ⟨.integer, "\"a\""⟩) := by
    apply Refuses.withheld letter
    rw [Function.update_self]
    have single : ¬ (Json.string "a").Collects .integer := by
      intro collects
      cases collects
    have nothing (v : Value) : ¬ (Json.string "a").SpellsAs .integer v := by
      intro spells
      cases spells
    exact .known (.other single nothing)
  have ended : Ends .epoch refused (.error (.conversion ⟨.integer, "\"a\""⟩)) :=
    .assignment ⟨d, .text rfl done, declares, layers⟩ rfl assigned mistyped
  have changed : Comes (some ⟨.integer, .integer 1⟩) [.number (.int 2)] (some ⟨.integer, .integer 2⟩) :=
    .cons (.written (.integer rfl) rfl) (.nil _)
  have again : Comes none [.number (.int 3), .number (.int 3)] (some ⟨.integer, .integer 3⟩) :=
    .cons (.fresh (.integer rfl)) (.cons (@Gives.kept _ _ (.integer 3) (.integer rfl) rfl) (.nil _))
  obtain ⟨_, same, typed⟩ := kept _ _ _ changed
  cases same
  obtain ⟨_, _, -, same, -⟩ := fresh _ _ _ again
  cases same
  obtain ⟨_, value, same, counts, held⟩ := last _ [.number (.int 3)] _ _ again
  cases same
  exact ⟨request, refused, card, text, cardText, d, file, rfl, rfl, rfl, (decides _ _ _).mp five, ended,
    (decides _ _ _).mp called, (reads _ _).mpr (.card cardRead shaped spells), done, declares, first, unknown,
    ⟨_, first.symm ▸ changed, typed⟩, ⟨_, value, unknown.symm ▸ again, rfl, counts, held⟩⟩

end CardExpr.Command
