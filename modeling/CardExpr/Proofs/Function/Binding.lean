import CardExpr.Proofs.Function.Soundness

/-!
What the body of a declared function sees: each name that it can refer to stands for the argument in the
position of that name, and no other name stands for anything.
-/

namespace CardExpr

namespace Table

variable {α : Type}

theorem find?_foldl_insert_of_notMem {entries : List (String × α)} {name : String}
    (absent : name ∉ entries.map (·.1)) (t : Table α) :
    (entries.foldl (fun t entry => t.insert entry.1 entry.2) t).find? name = t.find? name := by
  induction entries generalizing t with
  | nil => rfl
  | cons entry rest ih =>
      rw [List.map_cons, List.mem_cons, not_or] at absent
      rw [List.foldl_cons, ih absent.2, find?_insert, if_neg (Ne.symm absent.1)]

theorem find?_foldl_insert_of_mem {entries : List (String × α)} (nodup : (entries.map (·.1)).Nodup)
    {name : String} {value : α} (member : (name, value) ∈ entries) (t : Table α) :
    (entries.foldl (fun t entry => t.insert entry.1 entry.2) t).find? name = some value := by
  induction entries generalizing t with
  | nil => cases member
  | cons entry rest ih =>
      rw [List.map_cons, List.nodup_cons] at nodup
      rw [List.foldl_cons]
      rcases List.mem_cons.mp member with rfl | later
      · rw [find?_foldl_insert_of_notMem nodup.1, find?_insert, if_pos rfl]
      · exact ih nodup.2 later _

end Table

/-- The names of a function stand for the arguments in their positions, which are of the types declared for
them, and other names stand for nothing. -/
structure CustomFunction.Binds (g : CustomFunction) (args : Args) : Prop where
  bound : ∀ (i : Nat) (a : ArgumentDeclaration), g.arguments[i]? = some a →
    ∃ v, args.values[i]? = some v ∧ v.type = a.type ∧ (g.bindings args).find? a.name = some v
  unbound : ∀ name, name ∉ g.arguments.map (·.name) → (g.bindings args).find? name = none

namespace CustomFunction

variable {d : FunctionDeclaration} {g : CustomFunction} {args : Args}

theorem length_of_fit (fit : args.Fit (d.compiled g).signature) :
    args.values.length = g.arguments.length := by
  have admitted := fit.admitted
  simpa [FunctionDeclaration.compiled, signature, Signature.arity, Arity.admits] using admitted

theorem find?_bindings (compiles : compile d = .ok g) (fit : args.Fit (d.compiled g).signature) {i : Nat}
    {a : ArgumentDeclaration} (declared : g.arguments[i]? = some a) :
    ∃ v, args.values[i]? = some v ∧ v.type = a.type ∧ (g.bindings args).find? a.name = some v := by
  have length := length_of_fit fit
  have within : i < args.values.length := by
    rw [length]
    exact (List.getElem?_eq_some_iff.mp declared).1
  have found := List.getElem?_eq_getElem within
  refine ⟨args.values[i], found, ?_, ?_⟩
  · obtain ⟨expected, position, holds⟩ := fit.typed i _ found
    rw [Nat.zero_add, Signature.argType?] at position
    simp only [FunctionDeclaration.compiled, signature, List.getElem?_map, declared] at position
    cases position
    exact (beq_iff_eq.mp holds).symm
  · have names : ((g.arguments.map (·.name)).zip args.values).map (·.1) = g.arguments.map (·.name) :=
      List.map_fst_zip (by simp [length])
    refine Table.find?_foldl_insert_of_mem ?_ ?_ []
    · rw [names]
      exact (compile_eq_ok compiles).1
    · refine List.mem_of_getElem? (i := i) ?_
      rw [List.getElem?_zip_eq_some]
      exact ⟨by rw [List.getElem?_map, declared]; rfl, found⟩

theorem binds_of_fit (compiles : compile d = .ok g) (fit : args.Fit (d.compiled g).signature) :
    g.Binds args where
  bound _ _ declared := find?_bindings compiles fit declared
  unbound name undeclared := by
    refine Table.find?_foldl_insert_of_notMem (fun member => undeclared ?_) []
    obtain ⟨⟨key, v⟩, zipped, rfl⟩ := List.mem_map.mp member
    exact (List.of_mem_zip zipped).1

/-- Every name that occurs in the body of a compiled function is bound by the arguments of a call. -/
theorem Binds.find?_variable (binds : g.Binds args) (compiles : compile d = .ok g) {name : String}
    (occurs : name ∈ g.body.variableNames) : ∃ v, (g.bindings args).find? name = some v := by
  have known := (compile_eq_ok compiles).2.1 name occurs
  obtain ⟨a, member, rfl⟩ := List.mem_map.mp known
  obtain ⟨i, declared⟩ := List.mem_iff_getElem?.mp member
  obtain ⟨v, -, -, found⟩ := binds.bound i a declared
  exact ⟨v, found⟩

end CustomFunction

namespace Registry

/-- Every declared function of a registry that comes about by operations has been compiled. -/
def Declared (r : Registry) : Prop :=
  ∀ kind name, ∀ f ∈ r.overloads kind name, ∀ g, f.body = .custom g →
    ∃ d, CustomFunction.compile d = .ok g ∧ f = d.compiled g

theorem Reachable.declared {r : Registry} (reachable : r.Reachable) : r.Declared := by
  refine reachable.induction ?_ ?_ ?_ ?_
  · intro kind name f member
    cases kind <;> cases member
  · intro kind name f member g custom
    have builtin := ((mem_overloads_builtins kind name f).mp member).1
    obtain ⟨body, native, -⟩ := Builtin.entries_sound ⟨kind, f⟩ builtin
    rw [custom] at native
    cases native
  · intro r declared kind name f member
    rw [overloads_child] at member
    exact declared kind name f member
  · intro r op f declared offers _ kind name h member g custom
    rcases (r.mem_overloads_add .function kind f h name).mp member with old | ⟨-, rfl⟩
    · exact declared kind name h old g custom
    · cases offers with
      | native => cases custom
      | custom compiles =>
          cases custom
          exact ⟨_, compiles, rfl⟩

end Registry

end CardExpr
