import CardExpr.Proofs.Store.Update

/-!
The change that a batch reports: the variables that it leaves with another value than before, and those that
it changes in between and leaves with a value like the one before.
-/

namespace CardExpr

namespace Mutation

variable {m : Mutation} {o : ScopeId} {name : String} {held : Held}

/-- What writes do to a variable, and to the report of it. -/
inductive Treats (m : Mutation) (writes : List Stores.Write) (o : ScopeId) (name : String) (held : Held) :
    Prop where
  | kept (after : (writes.foldl Mutation.write m).stores.own? o name = some held)
      (report : (o, name) ∈ (writes.foldl Mutation.write m).change.updated ↔ (o, name) ∈ m.change.updated)
      (alike : ∀ w ∈ writes, w.owner = o → w.name = name → held.value.same w.value = true)
  | written {first last : Stores.Write} (member : first ∈ writes) (owner : first.owner = o)
      (named : first.name = name) (differs : held.value.same first.value = false)
      (also : last ∈ writes) (owner' : last.owner = o) (named' : last.name = name)
      (after : (writes.foldl Mutation.write m).stores.own? o name = some { held with value := last.value })
      (report : (o, name) ∈ (writes.foldl Mutation.write m).change.updated)

theorem treats_of_write (holds : m.stores.own? o name = some held) (w : Stores.Write) :
    m.Treats [w] o name held := by
  by_cases place : (w.owner, w.name) = (o, name)
  · cases place
    cases same : held.value.same w.value with
    | true =>
        have idle : m.write w = m := by simp only [Mutation.write, holds, same, if_true]
        refine .kept ?_ ?_ (List.forall_mem_singleton.mpr fun _ _ => same)
        · rw [List.foldl_cons, List.foldl_nil, idle, holds]
        · rw [List.foldl_cons, List.foldl_nil, idle]
    | false =>
        refine .written List.mem_cons_self rfl rfl same List.mem_cons_self rfl rfl ?_ ?_
        · simp [Mutation.write, holds, same, Stores.own?_put, Stores.lt_length_of_own? holds]
        · simp [Mutation.write, holds, same, StoreChange.update, mem_insertOrdered]
  · refine .kept ?_ ?_ (List.forall_mem_singleton.mpr fun owner named => absurd (Prod.ext owner named) place)
    all_goals
      rw [List.foldl_cons, List.foldl_nil]
      unfold Mutation.write
      split
    · exact holds
    · split
      · exact holds
      · exact (Stores.own?_put_of_ne _ _ _ _ _ _ place).trans holds
    · rfl
    · split
      · rfl
      · exact (mem_insertOrdered updateBefore _ _ _).trans (or_iff_right (Ne.symm place))

/-- By induction on the writes, from the first on: the report of a variable stays, and what it holds is what
it held or what was written last of all that was. -/
theorem treats (holds : m.stores.own? o name = some held) (writes : List Stores.Write) :
    m.Treats writes o name held := by
  induction writes generalizing m held with
  | nil => exact .kept holds Iff.rfl fun _ member => nomatch member
  | cons w rest ih =>
      cases treats_of_write holds w with
      | kept after report alike =>
          cases ih after with
          | kept after' report' alike' =>
              exact .kept after' (report'.trans report)
                (List.forall_mem_cons.mpr ⟨alike w List.mem_cons_self, alike'⟩)
          | written member owner named differs also owner' named' after' report' =>
              exact .written (List.mem_cons_of_mem w member) owner named differs
                (List.mem_cons_of_mem w also) owner' named' after' report'
      | written member owner named differs also owner' named' after report =>
          cases List.mem_singleton.mp member
          cases List.mem_singleton.mp also
          cases ih after with
          | kept after' report' =>
              exact .written List.mem_cons_self owner named differs List.mem_cons_self owner' named' after'
                (report'.mpr report)
          | written _ _ _ _ also owner' named' after' report' =>
              exact .written List.mem_cons_self owner named differs (List.mem_cons_of_mem _ also)
                owner' named' after' report'

end Mutation

theorem Value.Fits.unique {v : Value} {t : ValueType} {w other : Value} (fits : v.Fits t w)
    (also : v.Fits t other) : w = other :=
  Option.some.inj (((v.fits_iff t w).mp fits).symm.trans ((v.fits_iff t other).mp also))

namespace Stores

variable {s : Stores} {id : ScopeId} {updates : List (String × Value)} {m : Mutation}

/-- The batch writes the value, as the variable holds it, to the variable of that name in the store `o`. -/
def Writes (s : Stores) (id : ScopeId) (updates : List (String × Value)) (o : ScopeId) (name : String)
    (w : Value) : Prop :=
  ∃ value, (name, value) ∈ updates ∧ ∃ held, s.Owns id name o held ∧ value.Fits held.type w

/-- The variable is left with a value of the batch that is not like the one before. -/
def Changes (s t : Stores) (id : ScopeId) (updates : List (String × Value)) (o : ScopeId) (name : String) :
    Prop :=
  ∃ held w, s.own? o name = some held ∧ t.own? o name = some { held with value := w } ∧
    s.Writes id updates o name w ∧ held.value.same w = false

/-- The variable is left with a value of the batch that is like the one before, and had another in between. -/
def Restores (s t : Stores) (id : ScopeId) (updates : List (String × Value)) (o : ScopeId) (name : String) :
    Prop :=
  ∃ held w other, s.own? o name = some held ∧ t.own? o name = some { held with value := w } ∧
    s.Writes id updates o name w ∧ held.value.same w = true ∧
    s.Writes id updates o name other ∧ held.value.same other = false

theorem writes_of_checked {writes : List Write}
    (checked : List.Forall₂ (fun update w => s.check id update = .ok w) updates writes) (o : ScopeId)
    (name : String) (v : Value) :
    s.Writes id updates o name v ↔ ∃ w ∈ writes, w.owner = o ∧ w.name = name ∧ w.value = v := by
  constructor
  · rintro ⟨value, member, held, owns, fits⟩
    have passed : s.check id (name, value) = .ok ⟨o, name, v⟩ :=
      (s.check_eq_ok_iff id _ _).mpr ⟨held, owns, fits, rfl⟩
    obtain ⟨w, listed, same⟩ := exists_right_of_mem checked member
    cases same.symm.trans passed
    exact ⟨_, listed, rfl, rfl, rfl⟩
  · rintro ⟨w, member, rfl, rfl, rfl⟩
    obtain ⟨⟨_, value⟩, listed, passed⟩ := exists_left_of_mem checked member
    obtain ⟨held, owns, fits, rfl⟩ := (s.check_eq_ok_iff id _ w).mp passed
    exact ⟨value, listed, held, owns, fits⟩

theorem mem_updated_batchSet_iff (done : s.batchSet id updates = .ok m) (o : ScopeId) (name : String) :
    (o, name) ∈ m.change.updated ↔
      s.Changes m.stores id updates o name ∨ s.Restores m.stores id updates o name := by
  obtain ⟨writes, checks, rfl⟩ := (s.batchSet_eq_ok_iff id updates m).mp done
  have written := writes_of_checked ((mapM_eq_ok_iff _ _ _).mp checks) o name
  cases holds : s.own? o name with
  | none =>
      refine iff_of_false (fun updated => ?_) ?_
      · obtain ⟨held, owns, -⟩ := updated_of_batchSet done updated
        cases holds.symm.trans owns.holds
      · rintro (⟨held, _, here, -⟩ | ⟨held, _, _, here, -⟩)
        all_goals cases holds.symm.trans here
  | some held =>
      cases Mutation.treats (m := { stores := s }) holds writes with
      | kept after report alike =>
          refine iff_of_false (mt report.mp List.not_mem_nil) ?_
          have like (v : Value) (writes : s.Writes id updates o name v) : held.value.same v = true := by
            obtain ⟨w, member, owner, named, rfl⟩ := (written v).mp writes
            exact alike w member owner named
          rintro (⟨found, w, here, -, writes, differs⟩ | ⟨found, _, other, here, -, -, -, writes, differs⟩)
          · cases holds.symm.trans here
            cases (like w writes).symm.trans differs
          · cases holds.symm.trans here
            cases (like other writes).symm.trans differs
      | @written first last member owner named differs also owner' named' after report =>
          have other := (written first.value).mpr ⟨first, member, owner, named, rfl⟩
          have final := (written last.value).mpr ⟨last, also, owner', named', rfl⟩
          refine iff_of_true report ?_
          cases same : held.value.same last.value with
          | false => exact .inl ⟨held, last.value, holds, after, final, same⟩
          | true => exact .inr ⟨held, last.value, first.value, holds, after, final, same, other, differs⟩

theorem Restores.one_lt_count {t : Stores} {o : ScopeId} {name : String}
    (restores : s.Restores t id updates o name) :
    1 < (updates.map (·.1)).count name := by
  obtain ⟨held, w, other, -, -, ⟨value, listed, found, owns, fits⟩, same,
    ⟨value', listed', found', owns', fits'⟩, differs⟩ := restores
  obtain ⟨-, rfl⟩ := owns.unique owns'
  have apart : value ≠ value' := by
    rintro rfl
    obtain rfl := fits.unique fits'
    cases same.symm.trans differs
  obtain ⟨front, back, rfl⟩ := List.append_of_mem listed
  have elsewhere : (name, value') ∈ front ++ back := by
    simpa [apart.symm] using listed'
  have more : 0 < ((front ++ back).map (·.1)).count name :=
    List.count_pos_iff.mpr (List.mem_map_of_mem elsewhere)
  simp only [List.map_append, List.map_cons, List.count_append, List.count_cons_self] at more ⊢
  omega

/-- A batch that succeeds declares nothing. It reports the variables that it leaves with another value than
before, and those that it changes and restores; all others hold just what they held. Only a variable that the
batch names more than once is restored. Where nothing is reported nobody hears of the batch. -/
theorem batchSet_reportsDifference (done : s.batchSet id updates = .ok m) :
    m.change.declared = [] ∧
      (∀ o name, (o, name) ∈ m.change.updated ↔
        s.Changes m.stores id updates o name ∨ s.Restores m.stores id updates o name) ∧
      (∀ o name, (o, name) ∉ m.change.updated → m.stores.own? o name = s.own? o name) ∧
      (∀ o name, s.Restores m.stores id updates o name → 1 < (updates.map (·.1)).count name) ∧
      (m.change.updated = [] → ∀ isAlive, m.listeners isAlive = []) := by
  have declared := declared_of_batchSet done
  refine ⟨declared, mem_updated_batchSet_iff done, fun o name unreported => ?_,
    fun o name restores => restores.one_lt_count, fun nothing isAlive => ?_⟩
  · exact (accounts_of_batchSet s id updates m done).own?_eq o name (declared ▸ List.not_mem_nil) unreported
  · have empty : m.change.isEmpty = true := by simp [StoreChange.isEmpty, nothing, declared]
    rw [Mutation.listeners, if_pos empty]

/-- An equal write beside one to a variable of an outer store: the outer one alone is reported. -/
theorem batchSet_reportsDifference_of_nested_write :
    ∃ (s : Stores) (updates : List (String × Value)) (m : Mutation),
      s.batchSet 1 updates = .ok m ∧ s.Changes m.stores 1 updates 0 "x" ∧
        m.stores.own? 0 "x" = some ⟨.integer, .integer 3⟩ ∧
        (1, "y") ∉ m.change.updated ∧ m.stores.own? 1 "y" = s.own? 1 "y" := by
  let s : Stores := ⟨[{ declared := [("x", ⟨.integer, .integer 1⟩), ("y", ⟨.integer, .integer 2⟩)] },
    { ancestors := [0], declared := [("y", ⟨.string, .string "a"⟩)] }]⟩
  let updates : List (String × Value) := [("x", .integer 3), ("y", .string "a")]
  let m : Mutation := ⟨s.put 0 "x" ⟨.integer, .integer 3⟩, ⟨[(0, "x")], []⟩, [0]⟩
  have done : s.batchSet 1 updates = .ok m := rfl
  obtain ⟨-, reports, others, once, -⟩ := batchSet_reportsDifference done
  have unreported : (1, "y") ∉ m.change.updated := by decide
  refine ⟨s, updates, m, done, ?_, rfl, unreported, others 1 "y" unreported⟩
  refine ((reports 0 "x").mp (by decide)).resolve_right fun restores => ?_
  exact absurd (once 0 "x" restores) (by decide)

/-- A variable that is written away and back is reported, though it holds what it held. -/
theorem batchSet_reports_restored :
    ∃ (s : Stores) (updates : List (String × Value)) (m : Mutation),
      s.Reached ∧ s.batchSet 0 updates = .ok m ∧
        ¬ ∀ o name, (o, name) ∈ m.change.updated ↔
          ∃ held after, s.own? o name = some held ∧ m.stores.own? o name = some after ∧
            held.value.same after.value = false := by
  let x : Variable := .infer "x" (.integer 1)
  let s : Stores := ⟨[{ declared := [("x", ⟨.integer, .integer 1⟩)] }]⟩
  let updates : List (String × Value) := [("x", .integer 2), ("x", .integer 1)]
  let m : Mutation := ⟨s, ⟨[(0, "x")], []⟩, [0]⟩
  have created : Moves {} (Stores.create {} none).2 := .create none nofun
  have declared : Moves (Stores.create {} none).2 s :=
    .declareAll 0 [x] (by decide) (List.forall_mem_singleton.mpr (.infer "x" (.integer 1)))
  refine ⟨s, updates, m, .tail (.single created) declared, rfl, fun exact => ?_⟩
  obtain ⟨held, after, here, there, differs⟩ := (exact 0 "x").mp (by decide)
  cases here.symm.trans there
  cases here
  cases differs

end Stores

end CardExpr
