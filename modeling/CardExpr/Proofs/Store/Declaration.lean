import CardExpr.Proofs.Store.Batch

/-! Declarations of variables: a list of them is declared in a store as a whole or not at all. -/

namespace CardExpr.Stores

theorem firstTaken_eq_none_iff (own : Table Held) (seen names : List String) :
    firstTaken own seen names = none ↔
      names.Nodup ∧ ∀ name ∈ names, own.contains name = false ∧ name ∉ seen := by
  induction names generalizing seen with
  | nil => simp [firstTaken]
  | cons name rest ih =>
      rw [firstTaken, List.nodup_cons, List.forall_mem_cons]
      split
      next taken =>
        refine ⟨nofun, fun ⟨_, ⟨fresh, unseen⟩, _⟩ => ?_⟩
        simp [fresh, unseen] at taken
      next free =>
        simp only [Bool.or_eq_true, List.contains_iff_mem, not_or, Bool.not_eq_true] at free
        rw [ih]
        constructor
        · rintro ⟨distinct, fresh⟩
          exact ⟨⟨fun again => (fresh name again).2 List.mem_cons_self, distinct⟩, free,
            fun other member => ⟨(fresh other member).1,
              fun known => (fresh other member).2 (List.mem_cons_of_mem name known)⟩⟩
        · rintro ⟨⟨once, distinct⟩, -, fresh⟩
          refine ⟨distinct, fun other member => ⟨(fresh other member).1, ?_⟩⟩
          rw [List.mem_cons, not_or]
          exact ⟨fun same => once (same ▸ member), (fresh other member).2⟩

theorem firstTaken_eq_some_iff (own : Table Held) (seen names : List String) (name : String) :
    firstTaken own seen names = some name ↔
      ∃ before after, names = before ++ name :: after ∧ firstTaken own seen before = none ∧
        (own.contains name = true ∨ name ∈ seen ∨ name ∈ before) := by
  induction names generalizing seen with
  | nil => simp [firstTaken]
  | cons first rest ih =>
      rw [firstTaken]
      split
      next taken =>
        constructor
        · intro same
          cases same
          refine ⟨[], rest, rfl, rfl, ?_⟩
          simpa using taken
        · rintro ⟨before, after, split, free, -⟩
          cases before with
          | nil =>
              cases split
              rfl
          | cons other before =>
              cases split
              rw [firstTaken, if_pos taken] at free
              cases free
      next free =>
        rw [ih]
        constructor
        · rintro ⟨before, after, rfl, fresh, taken⟩
          refine ⟨first :: before, after, rfl, ?_, ?_⟩
          · rw [firstTaken, if_neg free]
            exact fresh
          · simpa [or_assoc, or_left_comm] using taken
        · rintro ⟨before, after, split, fresh, taken⟩
          cases before with
          | nil =>
              cases split
              simp at free taken
              exact absurd taken (by simp [free])
          | cons other before =>
              cases split
              rw [firstTaken, if_neg free] at fresh
              refine ⟨before, after, rfl, fresh, ?_⟩
              simpa [or_assoc, or_left_comm] using taken

/-- The variables have names of their own that the store does not declare yet. -/
def Declarable (s : Stores) (id : ScopeId) (vs : List Variable) : Prop :=
  (vs.map (·.name)).Nodup ∧ ∀ v ∈ vs, s.own? id v.name = none

/-- The first variable whose name the store or an earlier variable has taken is the reason of a refusal. -/
inductive Overlaps (s : Stores) (id : ScopeId) (vs : List Variable) : VariableError → Prop where
  | intro {before v after} (split : vs = before ++ v :: after) (free : s.Declarable id before)
      (taken : (s.own? id v.name).isSome ∨ v.name ∈ before.map (·.name)) :
      Overlaps s id vs (.alreadyDeclared v.name)

/-- The stores after all the variables were declared in one of them. -/
structure DeclaresAll (s : Stores) (id : ScopeId) (vs : List Variable) (t : Stores) : Prop where
  declared : ∀ v ∈ vs, t.own? id v.name = some v.toHeld
  others : ∀ o name, (o = id → name ∉ vs.map (·.name)) → t.own? o name = s.own? o name
  chain_eq : ∀ o, t.chain o = s.chain o

variable (s : Stores) (id : ScopeId)

theorem firstTaken_eq_none_iff_declarable (vs : List Variable) :
    firstTaken (s.store id).declared [] (vs.map (·.name)) = none ↔ s.Declarable id vs := by
  rw [firstTaken_eq_none_iff]
  refine and_congr_right fun _ => ?_
  simp [Table.contains, own?]

theorem declareAll_eq_error_iff (vs : List Variable) (e : VariableError) :
    s.declareAll id vs = .error e ↔ s.Overlaps id vs e := by
  unfold declareAll
  constructor
  · intro failed
    split at failed
    next name taken =>
      cases failed
      obtain ⟨front, back, split, free, known⟩ := (firstTaken_eq_some_iff _ _ _ _).mp taken
      obtain ⟨before, others, rfl, rfl, same⟩ := List.map_eq_append_iff.mp split
      obtain ⟨v, after, rfl, rfl, -⟩ := List.map_eq_cons_iff.mp same
      refine .intro rfl ((s.firstTaken_eq_none_iff_declarable id before).mp free) ?_
      simpa [Table.contains, own?] using known
    · cases failed
  · rintro ⟨rfl, free, taken⟩
    rename_i before v after
    have known : firstTaken (s.store id).declared [] ((before ++ v :: after).map (·.name)) = some v.name := by
      rw [firstTaken_eq_some_iff]
      refine ⟨before.map (·.name), after.map (·.name), by simp, ?_, ?_⟩
      · exact (s.firstTaken_eq_none_iff_declarable id before).mpr free
      · simpa [Table.contains, own?] using taken
    rw [known]

theorem declareAll_eq_ok_iff (vs : List Variable) (m : Mutation) :
    s.declareAll id vs = .ok m ↔
      s.Declarable id vs ∧
        m = ⟨vs.foldl (fun t v => t.put id v.name v.toHeld) s, .ofLists [] (vs.map (·.name)), [id]⟩ := by
  rw [← firstTaken_eq_none_iff_declarable]
  unfold declareAll
  split
  next name taken => simp [taken]
  next free => simp [free, eq_comm]

/-- Later variables have other names, so each stays as it was put. -/
theorem declaresAll_of_put (vs : List Variable) (distinct : (vs.map (·.name)).Nodup)
    (inside : id < s.all.length) :
    s.DeclaresAll id vs (vs.foldl (fun t v => t.put id v.name v.toHeld) s) := by
  induction vs generalizing s with
  | nil => exact ⟨fun _ member => (nomatch member), fun _ _ _ => rfl, fun _ => rfl⟩
  | cons v rest ih =>
      obtain ⟨once, distinct⟩ := List.nodup_cons.mp distinct
      have length : (s.put id v.name v.toHeld).all.length = s.all.length := s.length_modify id _
      obtain ⟨declared, others, chain_eq⟩ := ih (s.put id v.name v.toHeld) distinct (length.symm ▸ inside)
      refine ⟨List.forall_mem_cons.mpr ⟨?_, declared⟩, fun o name outside => ?_, fun o => ?_⟩
      · rw [List.foldl_cons, others id v.name fun _ => once, own?_put, if_pos ⟨rfl, inside, rfl⟩]
      · have elsewhere : (id, v.name) ≠ (o, name) := by
          rintro ⟨rfl, rfl⟩
          exact outside rfl List.mem_cons_self
        rw [List.foldl_cons, others o name fun same => mt (List.mem_cons_of_mem v.name) (outside same)]
        exact s.own?_put_of_ne id o v.name name v.toHeld elsewhere
      · rw [List.foldl_cons, chain_eq]
        exact congrArg (o :: ·) (s.ancestors_put id o v.name v.toHeld)

theorem declaresAll_of_declareAll {vs : List Variable} {m : Mutation} (done : s.declareAll id vs = .ok m)
    (inside : id < s.all.length) : s.DeclaresAll id vs m.stores := by
  obtain ⟨⟨distinct, -⟩, rfl⟩ := (s.declareAll_eq_ok_iff id vs m).mp done
  exact s.declaresAll_of_put id vs distinct inside

end CardExpr.Stores
