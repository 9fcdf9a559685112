import CardExpr.Proofs.Evaluation.ReadOrder

/-!
Evaluations over resolvers that give the same values. The stores that hold the values are noted in the reads
and matter nowhere else.
-/

namespace CardExpr

variable {α β : Type}

/-- Both resolvers know the same names, by the same values. -/
def Resolver.SameValues (first second : Resolver) : Prop :=
  ∀ name, (second name).map (·.value) = (first name).map (·.value)

/-- Both runs end the same, warn of the same, and read the same names one after another. -/
structure Run.Alike (m n : Run α) : Prop where
  result_eq : n.result = m.result
  names_eq : n.reads.map (·.name) = m.reads.map (·.name)
  warnings_eq : n.warnings = m.warnings

namespace Run.Alike

theorem refl (m : Run α) : Alike m m := ⟨rfl, rfl, rfl⟩

theorem followedBy {m n : Run α} {q r : Run β} (first : Alike m n) (second : Alike q r) :
    Alike (m.followedBy q) (n.followedBy r) where
  result_eq := second.result_eq
  names_eq := by simp only [Run.followedBy, List.map_append, first.names_eq, second.names_eq]
  warnings_eq := by simp only [Run.followedBy, first.warnings_eq, second.warnings_eq]

theorem bind {m n : Run α} {next onward : α → Run β} (first : Alike m n)
    (rest : ∀ a, Alike (next a) (onward a)) : Alike (m >>= next) (n >>= onward) := by
  cases outcome : m.result with
  | error e =>
      have failed : n.result = .error e := first.result_eq.trans outcome
      rw [Run.bind_of_error outcome, Run.bind_of_error failed]
      exact ⟨rfl, first.names_eq, first.warnings_eq⟩
  | ok a =>
      have ok : n.result = .ok a := first.result_eq.trans outcome
      rw [Run.bind_of_ok outcome, Run.bind_of_ok ok]
      exact first.followedBy (rest a)

theorem rescue {m n other instead : Run α} (first : Alike m n) (second : Alike other instead) :
    Alike (m.rescue fun _ => other) (n.rescue fun _ => instead) := by
  unfold Run.rescue
  rw [first.result_eq]
  split
  · exact first
  · exact first
  · exact first.followedBy second

end Run.Alike

theorem alike_compositional :
    Compositional fun _ run => ∀ first second : Resolver, first.SameValues second →
      (run first).Alike (run second) where
  const m _ _ _ _ := .refl m
  lookUp _ name first second same := by
    refine ⟨?_, rfl, rfl⟩
    show Except.ok ((second name).map (·.value)) = Except.ok ((first name).map (·.value))
    rw [same name]
  bind alike rest first second same := (alike first second same).bind fun a => rest a first second same
  rescue alike other first second same := (alike first second same).rescue (other first second same)

theorem evaluate_alike (s : Setting) (other : Resolver) (same : s.resolve.SameValues other) (e : Expression) :
    (evaluate (s.over other) e).result = (evaluate s e).result ∧
      (evaluate (s.over other) e).reads.map (·.name) = (evaluate s e).reads.map (·.name) ∧
      (evaluate (s.over other) e).warnings = (evaluate s e).warnings := by
  have mem_names (s : Setting) (tree : Expr) (name : String) (meaning : e.meaning = .tree tree) :
      name ∈ (evaluate s e).reads.map (·.name) ↔
        name ∈ (eval s.config.maxDepth s tree).reads.map (·.name) := by
    unfold evaluate
    rw [meaning]
    simp only [List.mem_map, mem_ofReads]
  cases meaning : e.meaning with
  | constant v =>
      unfold evaluate
      rw [meaning]
      exact ⟨rfl, rfl, rfl⟩
  | tree tree =>
      have alike := alike_compositional.eval s.config.maxDepth s tree s.resolve other same
      refine ⟨?_, ?_, ?_⟩
      · unfold evaluate
        rw [meaning]
        exact congrArg (Except.mapError _) alike.result_eq
      · have irrefl : Std.Irrefl fun a b : String => a < b := ⟨lt_irrefl⟩
        have antisymm : Std.Antisymm fun a b : String => a < b :=
          ⟨fun _ _ before after => absurd after before.asymm⟩
        refine List.Pairwise.eq_of_mem_iff (ascending_names_reads (s.over other) e)
          (ascending_names_reads s e)
          fun name => ?_
        rw [mem_names _ tree name meaning, mem_names _ tree name meaning]
        exact (congrArg (name ∈ ·) alike.names_eq).to_iff
      · unfold evaluate
        rw [meaning]
        exact alike.warnings_eq

end CardExpr
