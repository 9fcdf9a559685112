import CardExpr.Proofs.Evaluation.Tracking
import CardExpr.Proofs.Store.Difference

/-! Read-sets are complete: a change that hits no read leaves the evaluation as it was. -/

namespace CardExpr

namespace Stores

theorem chain_eq (s : Stores) (m : Mutation) (accounts : m.Accounts s) (id : ScopeId) :
    m.stores.chain id = s.chain id := by
  unfold chain
  rw [accounts.ancestors_eq]

/-- Where no store of the chain was touched, every name resolves as before. -/
theorem resolver_eq_of_untouched (s : Stores) (m : Mutation) (accounts : m.Accounts s) (id : ScopeId)
    (untouched : ∀ o ∈ s.chain id, o ∉ m.touched) : m.stores.resolver id = s.resolver id := by
  funext name
  unfold resolver
  rw [lookup_congr s m.stores id name (chain_eq s m accounts id)]
  intro o member
  exact accounts.own?_untouched o (untouched o member) name

/-- A read that the change does not hit has the same answer afterwards: the stores before the one that
answered still lack the name, and the one that answered still holds the value. -/
theorem lookup_eq_of_not_hit (s : Stores) (m : Mutation) (accounts : m.Accounts s) (id : ScopeId)
    (name : String)
    (missed : ReadSet.isHit m.change ⟨name, (s.lookup id name).map (·.2)⟩ = false) :
    m.stores.lookup id name = s.lookup id name := by
  unfold lookup at missed ⊢
  rw [chain_eq s m accounts]
  generalize s.chain id = chain at missed ⊢
  induction chain with
  | nil => rfl
  | cons o rest ih =>
      have fresh : name ∉ m.change.declared := by
        intro declared
        simp [ReadSet.isHit, declared] at missed
      have present := accounts.isSome_own?_eq o name fresh
      rw [List.findSome?_cons] at missed
      rw [List.findSome?_cons, List.findSome?_cons]
      cases found : s.own? o name with
      | none =>
          rw [found, Option.isSome_none, Option.isSome_eq_false_iff, Option.isNone_iff_eq_none] at present
          rw [found] at missed
          rw [present]
          exact ih missed
      | some held =>
          have same : (o, name) ∉ m.change.updated := by
            intro updated
            rw [found] at missed
            simp [ReadSet.isHit] at missed
            exact missed.2 o name updated rfl rfl
          rw [accounts.own?_eq o name fresh same, found]
          rfl

theorem bind_scope_resolver (s : Stores) (id : ScopeId) (name : String) :
    (s.resolver id name).bind (·.scope) = (s.lookup id name).map (·.2) := by
  unfold resolver
  cases s.lookup id name <;> rfl

theorem evaluate_eq_of_not_affected (s : Stores) (m : Mutation) (accounts : m.Accounts s)
    (id : ScopeId) (functions : Registry) (config : Config) (now : Calendar.DateTime) (e : Expression)
    (missed : ReadSet.isAffectedBy (evaluate ⟨s.resolver id, functions, config, now⟩ e).reads m.change =
      false) :
    evaluate ⟨m.stores.resolver id, functions, config, now⟩ e =
      evaluate ⟨s.resolver id, functions, config, now⟩ e := by
  apply evaluate_over_eq ⟨s.resolver id, functions, config, now⟩ (m.stores.resolver id) e
  intro read member
  have recorded : read.scope = (s.lookup id read.name).map (·.2) :=
    (scope_of_mem_reads _ e read member).trans (s.bind_scope_resolver id read.name)
  have missedRead : ReadSet.isHit m.change ⟨read.name, (s.lookup id read.name).map (·.2)⟩ = false := by
    rw [← recorded]
    exact Bool.eq_false_iff.mpr fun hit =>
      Bool.eq_false_iff.mp missed (List.any_eq_true.mpr ⟨read, member, hit⟩)
  unfold resolver
  rw [lookup_eq_of_not_hit s m accounts id read.name missedRead]

end Stores

/-- Read-sets are complete. Two resolvers that agree on the read-set of one evaluation, value and store,
give the same result, read-set and warnings; and so do the stores before and after an operation whose
change does not affect the read-set. -/
theorem readSet_complete :
    (∀ (s : Setting) (r : Resolver) (e : Expression),
      (∀ read ∈ (evaluate s e).reads, r read.name = s.resolve read.name) →
        evaluate { s with resolve := r } e = evaluate s e) ∧
    ∀ (s : Stores) (m : Mutation), s.Mutates m →
      ∀ (id : ScopeId) (functions : Registry) (config : Config) (now : Calendar.DateTime)
        (e : Expression),
        ReadSet.isAffectedBy (evaluate ⟨s.resolver id, functions, config, now⟩ e).reads m.change = false →
          evaluate ⟨m.stores.resolver id, functions, config, now⟩ e =
            evaluate ⟨s.resolver id, functions, config, now⟩ e := by
  constructor
  · intro s r e agrees
    exact evaluate_over_eq s r e agrees
  · intro s m mutates id functions config now e missed
    exact s.evaluate_eq_of_not_affected m mutates.accounts id functions config now e missed

/-- Neither a name that was not read nor a write to a variable that an inner store hides matters. -/
theorem readSet_complete_of_hidden_write :
    ∃ (s : Stores) (m : Mutation) (before after : Setting) (other : Resolver) (e : Expression),
      s.batchSet 0 [("x", .integer 7)] = .ok m ∧ m.change.updated = [(0, "x")] ∧
        before.resolve = s.resolver 1 ∧ after.resolve = m.stores.resolver 1 ∧
        (evaluate before e).reads = [⟨"x", some 1⟩] ∧ (evaluate before e).result = .ok (.integer 3) ∧
        evaluate after e = evaluate before e ∧
        before.resolve "z" = none ∧ (other "z").isSome ∧
        evaluate { before with resolve := other } e = evaluate before e := by
  let inner : Store := { ancestors := [0], declared := [("x", ⟨.integer, .integer 2⟩)] }
  let s : Stores := ⟨[{ declared := [("x", ⟨.integer, .integer 1⟩)] }, inner]⟩
  let m : Mutation :=
    ⟨⟨[{ declared := [("x", ⟨.integer, .integer 7⟩)] }, inner]⟩, ⟨[(0, "x")], []⟩, [0]⟩
  let before : Setting := ⟨s.resolver 1, {}, {}, .epoch⟩
  let other : Resolver :=
    fun name => if name = "x" then some ⟨.integer 2, some 1⟩ else some ⟨.integer 0, none⟩
  let e : Expression := ⟨"@\x7bx + 1\x7d", .tree (.binary .add (.variable "x") (.integer 1))⟩
  have done : s.batchSet 0 [("x", .integer 7)] = .ok m := rfl
  have hidden := readSet_complete.2 s m (.written 0 _ done) 1 {} {} .epoch e rfl
  have unread := readSet_complete.1 before other e fun read member => by
    rw [List.mem_singleton.mp (show read ∈ [⟨"x", some 1⟩] from member)]
    rfl
  exact ⟨s, m, before, ⟨m.stores.resolver 1, {}, {}, .epoch⟩, other, e, done, rfl, rfl, rfl, rfl, rfl,
    hidden, rfl, rfl, unread⟩

end CardExpr
