import CardExpr.Card.Declarations
import CardExpr.Proofs.Store.Declaration
import CardExpr.Session.Settle

/-! Operations on the variables are atomic, in the stores as in sessions where observers listen. -/

namespace CardExpr

/-- The first declaration without a value of its type is the reason of a refusal; if all have one, the
first name that is taken is. -/
inductive CardDeclarations.Clashes (d : CardDeclarations) (s : Stores) (id : ScopeId) :
    VariableError → Prop where
  | invalid {before v after e} (split : d.vars = before ++ v :: after)
      (valid : ∀ p ∈ before, ∃ x, p.toVariable = .ok x) (failed : v.toVariable = .error e) :
      Clashes d s id e
  | taken {vs e} (valid : List.Forall₂ (fun p v => p.toVariable = .ok v) d.vars vs)
      (overlaps : s.Overlaps id vs e) : Clashes d s id e

namespace CardDeclarations

variable (d : CardDeclarations) (s : Stores) (id : ScopeId)

def declare : Except VariableError Mutation := do
  let vs ← d.vars.mapM VariableDeclaration.toVariable
  s.declareAll id vs

theorem declareVariables_eq : d.declareVariables s id = (d.declare s id).mapError .variable := by
  unfold declareVariables declare
  cases d.vars.mapM VariableDeclaration.toVariable <;> rfl

theorem declare_eq_error_iff (e : VariableError) : d.declare s id = .error e ↔ d.Clashes s id e := by
  unfold declare
  constructor
  · intro failed
    cases converted : d.vars.mapM VariableDeclaration.toVariable with
    | error c =>
        rw [converted] at failed
        cases failed
        obtain ⟨before, v, after, split, valid, invalid⟩ := (mapM_eq_error_iff _ _ _).mp converted
        exact .invalid split valid invalid
    | ok vs =>
        rw [converted] at failed
        exact .taken ((mapM_eq_ok_iff _ _ _).mp converted) ((s.declareAll_eq_error_iff id vs e).mp failed)
  · rintro (⟨split, valid, invalid⟩ | ⟨valid, overlaps⟩)
    · rw [(mapM_eq_error_iff _ _ _).mpr ⟨_, _, _, split, valid, invalid⟩]
      rfl
    · rw [(mapM_eq_ok_iff _ _ _).mpr valid]
      exact (s.declareAll_eq_error_iff id _ e).mpr overlaps

theorem declare_eq_ok_iff (m : Mutation) :
    d.declare s id = .ok m ↔
      ∃ vs, List.Forall₂ (fun p v => p.toVariable = .ok v) d.vars vs ∧ s.declareAll id vs = .ok m := by
  simp only [← mapM_eq_ok_iff]
  unfold declare
  cases d.vars.mapM VariableDeclaration.toVariable with
  | error c => exact ⟨nofun, fun ⟨_, failed, _⟩ => nomatch failed⟩
  | ok vs =>
      constructor
      · intro done
        exact ⟨vs, rfl, done⟩
      · rintro ⟨_, same, done⟩
        cases same
        exact done

end CardDeclarations

namespace Session

variable {ν : Type} (s : Session ν)

def declareCard (id : ScopeId) (d : CardDeclarations) : Performed ν :=
  s.afterMutation (d.declare s.stores id)

/-- An operation that is refused leaves the session as it is and nothing to do; any other leaves the
stores of its mutation and one announcement. -/
structure IsAtomic (result : Except VariableError Mutation) (p : Performed ν) : Prop where
  refused : ∀ e, result = .error e → p = { outcome := .refused e, session := s }
  done : ∀ m, result = .ok m →
    p.outcome = .done ∧ p.session = { s with stores := m.stores } ∧
      p.works = [.announce m.change (m.listeners s.isAlive)]

theorem isAtomic_afterMutation (result : Except VariableError Mutation) :
    s.IsAtomic result (s.afterMutation result) where
  refused e failed := by
    rw [failed]
    rfl
  done m ok := by
    rw [ok]
    exact ⟨rfl, rfl, rfl⟩

end Session

/-- Operations on the variables are atomic. A batch is refused if and only if some of its writes would be
refused on its own, and for the first such write; otherwise it leaves all stores as its writes one after
another do. What a write on its own does is told by `Refuses` and `Assigns`: it goes to the innermost
store that declares the name, widens an integer for a number, and is skipped where the value is the same.
Declarations, a card's too, declare all their variables or are refused. In a session what is refused
changes nothing and is announced to nobody. -/
theorem operations_atomic :
    (∀ (s : Stores) (id : ScopeId) (updates : List (String × Value)),
      (∀ e, s.batchSet id updates = .error e ↔
        ∃ before update after, updates = before ++ update :: after ∧
          (∀ u ∈ before, ∀ c, ¬ s.Refuses id u c) ∧ s.Refuses id update e) ∧
        ∀ m, s.batchSet id updates = .ok m → s.setEach id updates = .ok m.stores) ∧
    (∀ (s : Stores) (id : ScopeId) (update : String × Value),
      (∀ e, s.set id update.1 update.2 = .error e ↔ s.Refuses id update e) ∧
        ∀ t, (∃ m, s.set id update.1 update.2 = .ok m ∧ m.stores = t) ↔ s.Assigns id update t) ∧
    (∀ (s : Stores) (id : ScopeId) (vs : List Variable),
      (∀ e, s.declareAll id vs = .error e ↔ s.Overlaps id vs e) ∧
        ∀ m, s.declareAll id vs = .ok m → id < s.all.length → s.DeclaresAll id vs m.stores) ∧
    (∀ (d : CardDeclarations) (s : Stores) (id : ScopeId),
      (∀ e, d.declareVariables s id = .error e ↔ ∃ c, e = .variable c ∧ d.Clashes s id c) ∧
        ∀ m, d.declareVariables s id = .ok m → id < s.all.length →
          ∃ vs, List.Forall₂ (fun p v => p.toVariable = .ok v) d.vars vs ∧ s.DeclaresAll id vs m.stores) ∧
    ∀ {ν : Type} (s : Session ν) (id : ScopeId),
      (∀ updates, s.IsAtomic (s.stores.batchSet id updates) (s.perform (.batchSet id updates))) ∧
        (∀ vs, s.IsAtomic (s.stores.declareAll id vs) (s.perform (.declareAll id vs))) ∧
        ∀ d, s.IsAtomic (d.declare s.stores id) (s.declareCard id d) := by
  refine ⟨fun s id updates => ⟨?_, ?_⟩, fun s id update => ⟨?_, ?_⟩, fun s id vs => ⟨?_, ?_⟩,
    fun d s id => ⟨fun e => ?_, fun m done inside => ?_⟩, fun s id => ⟨fun _ => ?_, fun _ => ?_, fun _ => ?_⟩⟩
  · exact s.batchSet_eq_error_iff id updates
  · exact fun m => Stores.setEach_of_batchSet id
  · exact s.set_eq_error_iff id update
  · exact s.set_eq_ok_iff id update
  · exact s.declareAll_eq_error_iff id vs
  · exact fun m => s.declaresAll_of_declareAll id
  · simp only [← CardDeclarations.declare_eq_error_iff, d.declareVariables_eq]
    cases d.declare s id with
    | error c => simp [Except.mapError, eq_comm]
    | ok m => exact ⟨nofun, fun ⟨_, _, failed⟩ => nomatch failed⟩
  · rw [d.declareVariables_eq] at done
    cases declared : d.declare s id with
    | error c =>
        rw [declared] at done
        cases done
    | ok n =>
        rw [declared] at done
        cases done
        obtain ⟨vs, valid, done⟩ := (d.declare_eq_ok_iff s id _).mp declared
        exact ⟨vs, valid, s.declaresAll_of_declareAll id done inside⟩
  · exact s.isAtomic_afterMutation _
  · exact s.isAtomic_afterMutation _
  · exact s.isAtomic_afterMutation _

/-- A write stays in the inner store that hides an outer variable of the name, and the later of two writes
to one variable counts. -/
theorem operations_atomic_of_hidden_name :
    ∃ (s : Stores) (updates : List (String × Value)) (vs : List Variable) (d : CardDeclarations)
      (m n k : Mutation),
      s.batchSet 1 updates = .ok m ∧ s.setEach 1 updates = .ok m.stores ∧
        m.stores.own? 0 "x" = some ⟨.integer, .integer 1⟩ ∧
        m.stores.own? 1 "x" = some ⟨.string, .string "c"⟩ ∧
        s.declareAll 1 vs = .ok n ∧ s.DeclaresAll 1 vs n.stores ∧
        d.declareVariables s 1 = .ok k ∧ ∃ us, s.DeclaresAll 1 us k.stores := by
  let s : Stores := ⟨[{ declared := [("k", ⟨.integer, .integer 0⟩), ("x", ⟨.integer, .integer 1⟩)] },
    { ancestors := [0], declared := [("x", ⟨.string, .string "a"⟩)] }]⟩
  let updates : List (String × Value) := [("x", .string "b"), ("k", .integer 2), ("x", .string "c")]
  let vs : List Variable := [⟨⟨.boolean, .boolean true⟩, "z"⟩]
  let d : CardDeclarations := { vars := [⟨"z", .boolean, .bool true⟩] }
  obtain ⟨batches, -, declarations, cards, -⟩ := operations_atomic
  let m : Mutation := ⟨⟨[{ declared := [("k", ⟨.integer, .integer 2⟩), ("x", ⟨.integer, .integer 1⟩)] },
    { ancestors := [0], declared := [("x", ⟨.string, .string "c"⟩)] }]⟩,
    ⟨[(0, "k"), (1, "x")], []⟩, [1, 0]⟩
  let n : Mutation := ⟨s.put 1 "z" ⟨.boolean, .boolean true⟩, ⟨[], ["z"]⟩, [1]⟩
  have written : s.batchSet 1 updates = .ok m := rfl
  have declared : s.declareAll 1 vs = .ok n := rfl
  have carded : d.declareVariables s 1 = .ok n := rfl
  obtain ⟨us, -, all⟩ := (cards d s 1).2 n carded (by decide)
  exact ⟨s, updates, vs, d, m, n, n, written, (batches s 1 updates).2 m written, rfl, rfl, declared,
    (declarations s 1 vs).2 n declared (by decide), carded, us, all⟩

end CardExpr
