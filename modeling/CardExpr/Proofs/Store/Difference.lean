import CardExpr.Store.Basic

/-! The change that an operation reports accounts for every difference between the stores. -/

namespace CardExpr

namespace Stores

theorem store_modify (s : Stores) (id other : ScopeId) (f : Store → Store) :
    (s.modify id f).store other =
      if id = other ∧ id < s.all.length then f (s.store other) else s.store other := by
  unfold modify store
  rw [List.getElem?_modify]
  by_cases same : id = other
  · subst other
    by_cases inside : id < s.all.length
    · simp [inside]
    · simp [inside]
  · simp [same]

theorem length_modify (s : Stores) (id : ScopeId) (f : Store → Store) :
    (s.modify id f).all.length = s.all.length :=
  List.length_modify f s.all id

theorem own?_put (s : Stores) (id other : ScopeId) (name wanted : String) (held : Held) :
    (s.put id name held).own? other wanted =
      if id = other ∧ id < s.all.length ∧ name = wanted then some held else s.own? other wanted := by
  unfold own? put
  rw [store_modify]
  by_cases place : id = other ∧ id < s.all.length
  · rw [if_pos place, Table.find?_insert]
    simp [place.1 ▸ place.2, place.1]
  · rw [if_neg place]
    simp only [← and_assoc, place, false_and, ↓reduceIte]

theorem ancestors_put (s : Stores) (id other : ScopeId) (name : String) (held : Held) :
    ((s.put id name held).store other).ancestors = (s.store other).ancestors := by
  unfold put
  rw [store_modify]
  split <;> rfl

theorem observers_put (s : Stores) (id other : ScopeId) (name : String) (held : Held) :
    ((s.put id name held).store other).observers = (s.store other).observers := by
  unfold put
  rw [store_modify]
  split <;> rfl

theorem own?_put_of_ne (s : Stores) (id other : ScopeId) (name wanted : String) (held : Held)
    (elsewhere : (id, name) ≠ (other, wanted)) :
    (s.put id name held).own? other wanted = s.own? other wanted := by
  rw [own?_put, if_neg]
  rintro ⟨rfl, -, rfl⟩
  exact elsewhere rfl

theorem isSome_own?_put (s : Stores) (id other : ScopeId) (name wanted : String) (held : Held)
    (present : (s.own? id name).isSome) :
    ((s.put id name held).own? other wanted).isSome = (s.own? other wanted).isSome := by
  rw [own?_put]
  split
  next place =>
    obtain ⟨rfl, -, rfl⟩ := place
    exact present.symm
  next => rfl

/-- A name resolves alike where the stores of the chain hold the same under it. -/
theorem lookup_congr (s t : Stores) (id : ScopeId) (name : String) (chains : t.chain id = s.chain id)
    (holds : ∀ o ∈ s.chain id, t.own? o name = s.own? o name) :
    t.lookup id name = s.lookup id name := by
  unfold lookup
  rw [chains]
  generalize s.chain id = chain at holds
  induction chain with
  | nil => rfl
  | cons o rest ih =>
      have further := ih fun other member => holds other (List.mem_cons_of_mem o member)
      rw [List.findSome?_cons, List.findSome?_cons, holds o List.mem_cons_self, further]

end Stores

namespace Mutation

/-- The mutation made its stores from `s`, and its change and its touched stores tell all that differs. -/
structure Accounts (s : Stores) (m : Mutation) : Prop where
  length_eq : m.stores.all.length = s.all.length
  ancestors_eq : ∀ id, (m.stores.store id).ancestors = (s.store id).ancestors
  observers_eq : ∀ id, (m.stores.store id).observers = (s.store id).observers
  own?_eq : ∀ id name, name ∉ m.change.declared → (id, name) ∉ m.change.updated →
    m.stores.own? id name = s.own? id name
  isSome_own?_eq : ∀ id name, name ∉ m.change.declared →
    (m.stores.own? id name).isSome = (s.own? id name).isSome
  own?_untouched : ∀ id, id ∉ m.touched → ∀ name, m.stores.own? id name = s.own? id name

theorem Accounts.refl (s : Stores) : Accounts s { stores := s } :=
  ⟨rfl, fun _ => rfl, fun _ => rfl, fun _ _ _ _ => rfl, fun _ _ _ => rfl, fun _ _ _ => rfl⟩

theorem Accounts.mono {s t : Stores} {few many : StoreChange} {inner outer : List ScopeId}
    (accounts : Accounts s ⟨t, few, inner⟩) (declared : ∀ name ∈ few.declared, name ∈ many.declared)
    (updated : ∀ u ∈ few.updated, u ∈ many.updated) (touched : ∀ id ∈ inner, id ∈ outer) :
    Accounts s ⟨t, many, outer⟩ where
  length_eq := accounts.length_eq
  ancestors_eq := accounts.ancestors_eq
  observers_eq := accounts.observers_eq
  own?_eq id name fresh same := accounts.own?_eq id name (fresh ∘ declared name) (same ∘ updated _)
  isSome_own?_eq id name fresh := accounts.isSome_own?_eq id name (fresh ∘ declared name)
  own?_untouched id outside := accounts.own?_untouched id (outside ∘ touched id)

/-- One more variable is put where the change already tells of it. -/
theorem Accounts.put {s t : Stores} {change : StoreChange} {touched : List ScopeId}
    (accounts : Accounts s ⟨t, change, touched⟩) (id : ScopeId) (name : String) (held : Held)
    (told : name ∈ change.declared ∨ (id, name) ∈ change.updated ∧ (t.own? id name).isSome)
    (inside : id ∈ touched) : Accounts s ⟨t.put id name held, change, touched⟩ where
  length_eq := (Stores.length_modify t id _).trans accounts.length_eq
  ancestors_eq other := (t.ancestors_put id other name held).trans (accounts.ancestors_eq other)
  observers_eq other := (t.observers_put id other name held).trans (accounts.observers_eq other)
  own?_eq := by
    intro other wanted fresh same
    refine (t.own?_put_of_ne id other name wanted held ?_).trans (accounts.own?_eq other wanted fresh same)
    rintro ⟨rfl, rfl⟩
    rcases told with declared | ⟨updated, -⟩
    · exact fresh declared
    · exact same updated
  isSome_own?_eq := by
    intro other wanted fresh
    refine Eq.trans ?_ (accounts.isSome_own?_eq other wanted fresh)
    rcases told with declared | ⟨-, present⟩
    · have elsewhere : (id, name) ≠ (other, wanted) := by
        rintro ⟨rfl, rfl⟩
        exact fresh declared
      exact congrArg Option.isSome (t.own?_put_of_ne id other name wanted held elsewhere)
    · exact t.isSome_own?_put id other name wanted held present
  own?_untouched := by
    intro other outside wanted
    refine (t.own?_put_of_ne id other name wanted held ?_).trans
      (accounts.own?_untouched other outside wanted)
    rintro ⟨rfl, rfl⟩
    exact outside inside

theorem Accounts.write {s : Stores} {m : Mutation} (accounts : Accounts s m) (w : Stores.Write) :
    Accounts s (m.write w) := by
  unfold Mutation.write
  split
  · exact accounts
  next held found =>
    split
    · exact accounts
    · have mem_update : ∀ u, u ∈ (m.change.update w.owner w.name).updated ↔
          u = (w.owner, w.name) ∨ u ∈ m.change.updated :=
        fun u => mem_insertOrdered updateBefore _ u _
      have mem_touched : ∀ id, id ∈ (if m.touched.contains w.owner then m.touched
          else m.touched ++ [w.owner]) ↔ id = w.owner ∨ id ∈ m.touched := by
        intro id
        split
        next known =>
          have known : w.owner ∈ m.touched := List.contains_iff_mem.mp known
          constructor
          · exact .inr
          · rintro (rfl | member)
            · exact known
            · exact member
        next => rw [List.mem_append, List.mem_singleton, or_comm]
      have wider : Accounts s ⟨m.stores, m.change.update w.owner w.name,
          if m.touched.contains w.owner then m.touched else m.touched ++ [w.owner]⟩ :=
        accounts.mono (fun _ member => member) (fun u member => (mem_update u).mpr (.inr member))
          fun id member => (mem_touched id).mpr (.inr member)
      exact wider.put w.owner w.name _ (.inr ⟨(mem_update _).mpr (.inl rfl), by rw [found]; rfl⟩)
        ((mem_touched _).mpr (.inl rfl))

end Mutation

namespace Stores

/-- The operations that change variables. -/
inductive Mutates (s : Stores) (m : Mutation) : Prop where
  | declared (id : ScopeId) (vs : List Variable) (done : s.declareAll id vs = .ok m)
  | written (id : ScopeId) (updates : List (String × Value)) (done : s.batchSet id updates = .ok m)

theorem accounts_of_declareAll (s : Stores) (id : ScopeId) (vs : List Variable) (m : Mutation)
    (done : s.declareAll id vs = .ok m) : Mutation.Accounts s m := by
  unfold declareAll at done
  split at done
  · cases done
  · cases done
    refine List.foldlRecOn (motive := fun t => Mutation.Accounts s ⟨t, _, _⟩) vs _ ?_ ?_
    · exact (Mutation.Accounts.refl s).mono (by simp) (by simp) (by simp)
    · intro t accounts v member
      refine accounts.put id v.name v.toHeld (.inl ?_) (List.mem_singleton.mpr rfl)
      exact (mem_orderedSet nameBefore _ _).mpr (List.mem_map.mpr ⟨v, member, rfl⟩)

theorem accounts_of_batchSet (s : Stores) (id : ScopeId) (updates : List (String × Value))
    (m : Mutation) (done : s.batchSet id updates = .ok m) : Mutation.Accounts s m := by
  unfold batchSet at done
  cases checked : updates.mapM (s.check id) with
  | error e =>
      rw [checked] at done
      cases done
  | ok writes =>
      rw [checked] at done
      cases done
      exact List.foldlRecOn writes _ (Mutation.Accounts.refl s) fun m accounts w _ => accounts.write w

theorem Mutates.accounts {s : Stores} {m : Mutation} (mutates : s.Mutates m) : m.Accounts s := by
  cases mutates with
  | declared id vs done => exact accounts_of_declareAll s id vs m done
  | written id updates done => exact accounts_of_batchSet s id updates m done

end Stores

end CardExpr
