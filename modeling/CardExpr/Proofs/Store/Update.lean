import CardExpr.Proofs.Store.Scoping

/-!
What a batch reports as updated. A variable that is written once is reported for a value that differs from
the one before; of one that is written more than once nothing is said.
-/

namespace CardExpr

variable {m : Mutation} {o : ScopeId} {name : String}

/-- The same value in the same store, or nothing both times. Values are compared as writes compare them. -/
def sameAnswer : Option (Value × ScopeId) → Option (Value × ScopeId) → Bool
  | none, none => true
  | some (v, o), some (w, p) => v.same w && o == p
  | _, _ => false

namespace Mutation

theorem own?_write_of_ne {w : Stores.Write} (other : w.name ≠ name) :
    (m.write w).stores.own? o name = m.stores.own? o name := by
  rw [Stores.stores_write]
  unfold Stores.write
  split
  · rfl
  · split
    · rfl
    · exact Stores.own?_put_of_ne _ _ _ _ _ _ fun same => other (Prod.mk.inj same).2

theorem mem_updated_write {w : Stores.Write} (updated : (o, name) ∈ (m.write w).change.updated)
    (before : (o, name) ∉ m.change.updated) :
    w.owner = o ∧ w.name = name ∧ ∃ held, m.stores.own? o name = some held ∧ held.value.same w.value = false ∧
      (m.write w).stores = m.stores.put o name { held with value := w.value } := by
  unfold Mutation.write at updated
  split at updated
  · exact absurd updated before
  next held found =>
    split at updated
    · exact absurd updated before
    next differs =>
      rcases (mem_insertOrdered updateBefore _ _ _).mp updated with same | old
      · cases same
        refine ⟨rfl, rfl, held, found, Bool.eq_false_iff.mpr differs, ?_⟩
        rw [Stores.stores_write]
        simp only [Stores.write, found, differs, Bool.false_eq_true, if_false]
      · exact absurd old before

variable {writes : List Stores.Write}

theorem mem_updated_writes (updated : (o, name) ∈ (writes.foldl Mutation.write m).change.updated) :
    (o, name) ∈ m.change.updated ∨ ∃ w ∈ writes, w.owner = o ∧ w.name = name := by
  induction writes generalizing m with
  | nil => exact .inl updated
  | cons w rest ih =>
      rcases ih updated with earlier | ⟨v, later, same⟩
      · by_cases before : (o, name) ∈ m.change.updated
        · exact .inl before
        · obtain ⟨owner, named, -⟩ := mem_updated_write earlier before
          exact .inr ⟨w, List.mem_cons_self, owner, named⟩
      · exact .inr ⟨v, List.mem_cons_of_mem w later, same⟩

theorem own?_writes_of_not_mem (absent : name ∉ writes.map (·.name)) :
    (writes.foldl Mutation.write m).stores.own? o name = m.stores.own? o name := by
  induction writes generalizing m with
  | nil => rfl
  | cons w rest ih =>
      obtain ⟨other, further⟩ := not_or.mp (mt List.mem_cons.mpr absent)
      exact (ih further).trans (own?_write_of_ne (Ne.symm other))

/-- Of the writes to a variable there is only one, so it alone decides whether the variable is reported. -/
theorem own?_writes_of_once {front back : List Stores.Write} {w : Stores.Write}
    (before : name ∉ front.map (·.name)) (behind : name ∉ back.map (·.name))
    (fresh : (o, name) ∉ m.change.updated)
    (updated : (o, name) ∈ ((front ++ w :: back).foldl Mutation.write m).change.updated) :
    ∃ held, m.stores.own? o name = some held ∧ held.value.same w.value = false ∧
      ((front ++ w :: back).foldl Mutation.write m).stores.own? o name =
        some { held with value := w.value } := by
  have unnamed {part : List Stores.Write} (absent : name ∉ part.map (·.name)) :
      ¬ ∃ v ∈ part, v.owner = o ∧ v.name = name := by
    rintro ⟨v, member, -, rfl⟩
    exact absent (List.mem_map_of_mem member)
  rw [List.foldl_append, List.foldl_cons] at updated ⊢
  have now := (mem_updated_writes updated).resolve_right (unnamed behind)
  have earlier : (o, name) ∉ (front.foldl Mutation.write m).change.updated := fun old =>
    fresh ((mem_updated_writes old).resolve_right (unnamed before))
  obtain ⟨-, -, held, found, differs, put⟩ := mem_updated_write now earlier
  refine ⟨held, (own?_writes_of_not_mem before).symm.trans found, differs, ?_⟩
  rw [own?_writes_of_not_mem behind, put, Stores.own?_put, if_pos ⟨rfl, Stores.lt_length_of_own? found, rfl⟩]

end Mutation

namespace Stores

variable {s : Stores} {id : ScopeId} {updates : List (String × Value)}

theorem declared_of_batchSet (done : s.batchSet id updates = .ok m) : m.change.declared = [] := by
  obtain ⟨writes, -, rfl⟩ := (s.batchSet_eq_ok_iff id updates m).mp done
  refine List.foldlRecOn (motive := fun m : Mutation => m.change.declared = []) writes _ rfl ?_
  intro m nothing w _
  unfold Mutation.write
  split
  · exact nothing
  · split <;> exact nothing

theorem names_of_checked {writes : List Write}
    (checked : List.Forall₂ (fun update w => s.check id update = .ok w) updates writes) :
    writes.map (·.name) = updates.map (·.1) := by
  induction checked with
  | nil => rfl
  | @cons update w _ _ passed _ ih =>
      obtain ⟨held, -, -, named⟩ := (s.check_eq_ok_iff id update w).mp passed
      rw [List.map_cons, List.map_cons, named, ih]

/-- The store of a variable that a batch reports is the one that the name resolves to. Unless the batch
names the variable more than once, it holds another value than before. -/
theorem updated_of_batchSet (done : s.batchSet id updates = .ok m)
    (updated : (o, name) ∈ m.change.updated) :
    ∃ held, s.Owns id name o held ∧
      (1 < (updates.map (·.1)).count name ∨
        ∃ w, held.value.same w = false ∧ m.stores.own? o name = some { held with value := w }) := by
  obtain ⟨writes, checks, rfl⟩ := (s.batchSet_eq_ok_iff id updates m).mp done
  have checked := (mapM_eq_ok_iff _ _ _).mp checks
  rcases Mutation.mem_updated_writes updated with old | ⟨w, member, rfl, rfl⟩
  · cases old
  obtain ⟨update, -, passed⟩ := exists_left_of_mem checked member
  obtain ⟨held, owns, -, named⟩ := (s.check_eq_ok_iff id update w).mp passed
  rw [← named] at owns
  refine ⟨held, owns, ?_⟩
  obtain ⟨front, back, rfl⟩ := List.append_of_mem member
  by_cases once : w.name ∉ front.map (·.name) ∧ w.name ∉ back.map (·.name)
  · obtain ⟨found, here, differs, after⟩ :=
      Mutation.own?_writes_of_once once.1 once.2 (List.not_mem_nil) updated
    cases owns.holds.symm.trans here
    exact .inr ⟨w.value, differs, after⟩
  · refine .inl ?_
    rw [← names_of_checked checked, List.map_append, List.map_cons, List.count_append, List.count_cons_self]
    rw [not_and_or, not_not, not_not] at once
    have more : 0 < (front.map (·.name)).count w.name ∨ 0 < (back.map (·.name)).count w.name :=
      once.imp List.count_pos_iff.mpr List.count_pos_iff.mpr
    omega

end Stores

end CardExpr
