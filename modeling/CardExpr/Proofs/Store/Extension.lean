import CardExpr.Proofs.Store.Difference

/-! Stores that are added, and observers that are registered, leave the variables of all stores alone. -/

namespace CardExpr.Stores

/-- The ancestors of every store are stores. -/
def Nested (s : Stores) : Prop :=
  ∀ id, ∀ o ∈ (s.store id).ancestors, o < s.all.length

/-- The stores of `s` stand in `t` with the same ancestors and at least the same observers. -/
structure Grows (s t : Stores) : Prop where
  length_le : s.all.length ≤ t.all.length
  ancestors_eq : ∀ id < s.all.length, (t.store id).ancestors = (s.store id).ancestors
  observers_subset : ∀ id < s.all.length, ∀ o ∈ (s.store id).observers, o ∈ (t.store id).observers

/-- They hold the same variables too. -/
structure Extends (s t : Stores) : Prop extends Grows s t where
  own?_eq : ∀ id < s.all.length, ∀ name, t.own? id name = s.own? id name

theorem Extends.refl (s : Stores) : Extends s s where
  length_le := Nat.le_refl _
  ancestors_eq _ _ := rfl
  observers_subset _ _ _ member := member
  own?_eq _ _ _ := rfl

theorem Extends.trans {s t u : Stores} (first : Extends s t) (second : Extends t u) : Extends s u where
  length_le := Nat.le_trans first.length_le second.length_le
  ancestors_eq id inside :=
    (second.ancestors_eq id (Nat.lt_of_lt_of_le inside first.length_le)).trans
      (first.ancestors_eq id inside)
  observers_subset id inside o member :=
    second.observers_subset id (Nat.lt_of_lt_of_le inside first.length_le) o
      (first.observers_subset id inside o member)
  own?_eq id inside name :=
    (second.own?_eq id (Nat.lt_of_lt_of_le inside first.length_le) name).trans
      (first.own?_eq id inside name)

/-- An operation on the variables changes neither ancestors nor observers. -/
theorem grows_of_accounts (s : Stores) (m : Mutation) (accounts : m.Accounts s) : s.Grows m.stores where
  length_le := Nat.le_of_eq accounts.length_eq.symm
  ancestors_eq id _ := accounts.ancestors_eq id
  observers_subset id _ _ member := (accounts.observers_eq id).symm ▸ member

theorem lt_length_of_mem_chain (s : Stores) (nested : s.Nested) (id : ScopeId)
    (inside : id < s.all.length) (o : ScopeId) (member : o ∈ s.chain id) : o < s.all.length := by
  rcases List.mem_cons.mp member with rfl | member
  · exact inside
  · exact nested id o member

theorem Grows.chain_eq {s t : Stores} (wider : Grows s t) (id : ScopeId)
    (inside : id < s.all.length) : t.chain id = s.chain id := by
  unfold chain
  rw [wider.ancestors_eq id inside]

theorem Extends.resolver_eq {s t : Stores} (wider : Extends s t) (nested : s.Nested) (id : ScopeId)
    (inside : id < s.all.length) : t.resolver id = s.resolver id := by
  funext name
  unfold resolver
  rw [lookup_congr s t id name (wider.chain_eq id inside)]
  intro o member
  exact wider.own?_eq o (s.lt_length_of_mem_chain nested id inside o member) name

theorem store_create (s : Stores) (parent : Option ScopeId) (id : ScopeId) :
    (s.create parent).2.store id =
      if id = s.all.length then { ancestors := parent.elim [] s.chain } else s.store id := by
  unfold create store
  rcases Nat.lt_trichotomy id s.all.length with before | rfl | behind
  · rw [List.getElem?_append_left before, if_neg (Nat.ne_of_lt before)]
  · rw [List.getElem?_concat_length, if_pos rfl]
    cases parent <;> rfl
  · have outside : (s.all ++ [({} : Store)]).length ≤ id := by
      rw [List.length_append, List.length_singleton]
      exact behind
    rw [if_neg (Nat.ne_of_gt behind), List.getElem?_eq_none (Nat.le_of_lt behind),
      List.getElem?_eq_none (by simpa using outside)]

theorem length_create (s : Stores) (parent : Option ScopeId) :
    (s.create parent).2.all.length = s.all.length + 1 := by
  simp [create]

theorem extends_create (s : Stores) (parent : Option ScopeId) : Extends s (s.create parent).2 := by
  have kept : ∀ id < s.all.length, (s.create parent).2.store id = s.store id := fun id inside => by
    rw [store_create, if_neg (Nat.ne_of_lt inside)]
  refine ⟨⟨?_, ?_, ?_⟩, ?_⟩
  · rw [length_create]
    exact Nat.le_succ _
  · intro id inside
    rw [kept id inside]
  · intro id inside o member
    rw [kept id inside]
    exact member
  · intro id inside name
    unfold own?
    rw [kept id inside]

theorem nested_create (s : Stores) (nested : s.Nested) (parent : Option ScopeId)
    (inside : ∀ p ∈ parent, p < s.all.length) : (s.create parent).2.Nested := by
  intro id o member
  rw [length_create]
  rw [store_create] at member
  apply Nat.lt_succ_of_lt
  split at member
  · cases parent with
    | none => exact absurd member List.not_mem_nil
    | some p => exact s.lt_length_of_mem_chain nested p (inside p rfl) o member
  · exact nested id o member

theorem extends_observe (s : Stores) (id : ScopeId) (observer : ObserverId) :
    Extends s (s.observe id observer) := by
  have view : ∀ {α : Type} (f : Store → α),
      (∀ store : Store, f { store with observers := store.observers ++ [observer] } = f store) →
      ∀ other, f ((s.observe id observer).store other) = f (s.store other) := by
    intro α f same other
    unfold observe
    rw [store_modify]
    split
    · exact same _
    · rfl
  refine ⟨⟨?_, ?_, ?_⟩, ?_⟩
  · exact Nat.le_of_eq (s.length_modify id _).symm
  · exact fun other _ => view (·.ancestors) (fun _ => rfl) other
  · intro other _ o member
    unfold observe
    rw [store_modify]
    split
    · exact List.mem_append_left _ member
    · exact member
  · exact fun other _ name => view (fun store => store.declared.find? name) (fun _ => rfl) other

theorem nested_observe (s : Stores) (nested : s.Nested) (id : ScopeId) (observer : ObserverId) :
    (s.observe id observer).Nested := by
  intro other o member
  unfold observe at member ⊢
  rw [length_modify]
  rw [store_modify] at member
  split at member
  · exact nested other o member
  · exact nested other o member

theorem mem_observers_observe (s : Stores) (id : ScopeId) (observer : ObserverId)
    (inside : id < s.all.length) : observer ∈ ((s.observe id observer).store id).observers := by
  unfold observe
  rw [store_modify, if_pos ⟨rfl, inside⟩]
  exact List.mem_append_right _ (List.mem_singleton.mpr rfl)

/-- Registers an observer with several stores. -/
def observeAll (s : Stores) (ids : List ScopeId) (observer : ObserverId) : Stores :=
  ids.foldl (fun s id => s.observe id observer) s

theorem extends_observeAll (s : Stores) (ids : List ScopeId) (observer : ObserverId) :
    Extends s (s.observeAll ids observer) :=
  List.foldlRecOn ids _ (Extends.refl s) fun t wider id _ =>
    wider.trans (t.extends_observe id observer)

theorem nested_observeAll (s : Stores) (nested : s.Nested) (ids : List ScopeId) (observer : ObserverId) :
    (s.observeAll ids observer).Nested :=
  List.foldlRecOn ids _ nested fun t nested id _ => t.nested_observe nested id observer

theorem mem_observers_observeAll (s : Stores) (ids : List ScopeId) (observer : ObserverId) (id : ScopeId)
    (inside : id < s.all.length) (member : id ∈ ids) :
    observer ∈ ((s.observeAll ids observer).store id).observers := by
  induction ids generalizing s with
  | nil => exact absurd member List.not_mem_nil
  | cons other rest ih =>
      have wider := (s.extends_observe other observer).length_le
      rcases List.mem_cons.mp member with rfl | member
      · exact ((s.observe id observer).extends_observeAll rest observer).observers_subset id
          (Nat.lt_of_lt_of_le inside wider) observer (s.mem_observers_observe id observer inside)
      · exact ih (s.observe other observer) (Nat.lt_of_lt_of_le inside wider) member

end CardExpr.Stores
