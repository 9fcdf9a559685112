import CardExpr.Proofs.Store.History

/-!
Scoping. A write reaches the lookups that resolve the name to the same store, a declaration those that come
to its store before any other that declares the name; no other lookup changes.
-/

namespace CardExpr.Stores

variable {s t : Stores} {id u owner : ScopeId} {name : String} {held : Held}

theorem lookup_eq_none_iff : s.lookup u name = none ↔ ∀ o ∈ s.chain u, s.own? o name = none := by
  unfold lookup
  rw [List.findSome?_eq_none_iff]
  exact forall₂_congr fun _ _ => Option.map_eq_none_iff

theorem Owns.lookup_eq (owns : s.Owns u name owner held) : s.lookup u name = some (held.value, owner) := by
  obtain ⟨⟨inner, outer, chain, hidden⟩, holds⟩ := owns
  unfold lookup
  rw [List.findSome?_eq_some_iff]
  refine ⟨inner, owner, outer, chain, ?_, fun o member => ?_⟩
  · rw [holds]
    rfl
  · rw [hidden o member]
    rfl

theorem exists_owns_of_lookup {found : Value × ScopeId} (answer : s.lookup u name = some found) :
    ∃ held, s.Owns u name found.2 held ∧ held.value = found.1 := by
  unfold lookup at answer
  rw [List.findSome?_eq_some_iff] at answer
  obtain ⟨inner, o, outer, chain, here, hidden⟩ := answer
  obtain ⟨held, holds, rfl⟩ := Option.map_eq_some_iff.mp here
  exact ⟨held, ⟨⟨inner, outer, chain, fun o member => Option.map_eq_none_iff.mp (hidden o member)⟩,
    holds⟩, rfl⟩

/-- The store is in the chain of the other, and no store before it declares the name. -/
def Sees (s : Stores) (u id : ScopeId) (name : String) : Prop :=
  ∃ inner outer, s.chain u = inner ++ id :: outer ∧ ∀ o ∈ inner, s.own? o name = none

/-- Another store nested in the same one, or one that the store is nested in itself. -/
inductive Beside (s : Stores) (id u : ScopeId) : Prop where
  | sibling (other : u ≠ id) (same : s.parent? u = s.parent? id)
  | outer (member : u ∈ (s.store id).ancestors)

theorem Rooted.ancestors_eq_of_parent? (rooted : s.Rooted) (same : s.parent? u = s.parent? id) :
    (s.store u).ancestors = (s.store id).ancestors := by
  cases parent : s.parent? id with
  | none =>
      rw [parent] at same
      exact (List.head?_eq_none_iff.mp same).trans (List.head?_eq_none_iff.mp parent).symm
  | some p =>
      rw [parent] at same
      exact (rooted.linked u p same).trans (rooted.linked id p parent).symm

theorem Beside.not_mem_chain (beside : s.Beside id u) (rooted : s.Rooted) : id ∉ s.chain u := by
  intro member
  cases beside with
  | sibling other same =>
      rcases List.mem_cons.mp member with rfl | further
      · exact other rfl
      · rw [rooted.ancestors_eq_of_parent? same] at further
        exact Nat.lt_irrefl id (rooted.older id id further)
  | outer inside =>
      have below := rooted.older id u inside
      rcases List.mem_cons.mp member with rfl | further
      · exact Nat.lt_irrefl id below
      · exact Nat.lt_asymm below (rooted.older u id further)

theorem lookup_put_of_ne {other : String} (differs : other ≠ name) :
    (s.put owner name held).lookup u other = s.lookup u other :=
  lookup_congr _ _ _ _ (congrArg (u :: ·) (s.ancestors_put owner u name held)) fun o _ =>
    s.own?_put_of_ne owner o name other held fun same => differs (Prod.mk.inj same).2.symm

theorem lookup_put_of_not_mem {other : String} (apart : owner ∉ s.chain u) :
    (s.put owner name held).lookup u other = s.lookup u other :=
  lookup_congr _ _ _ _ (congrArg (u :: ·) (s.ancestors_put owner u name held)) fun o member =>
    s.own?_put_of_ne owner o name other held fun same => apart ((Prod.mk.inj same).1 ▸ member)

theorem undeclared_put (holds : s.own? owner name = some held) (new : Held) {o : ScopeId}
    (undeclared : s.own? o name = none) : (s.put owner name new).own? o name = none := by
  refine (s.own?_put_of_ne owner o name name new ?_).trans undeclared
  rintro ⟨rfl, rfl⟩
  cases holds.symm.trans undeclared

theorem Owns.put (owns : s.Owns u name owner held) (new : Held) :
    (s.put owner name new).Owns u name owner new := by
  obtain ⟨⟨inner, outer, chain, hidden⟩, holds⟩ := owns
  refine ⟨⟨inner, outer, ?_, fun o member => undeclared_put holds new (hidden o member)⟩, ?_⟩
  · exact (congrArg (u :: ·) (s.ancestors_put owner u name new)).trans chain
  · rw [own?_put, if_pos ⟨rfl, lt_length_of_own? holds, rfl⟩]

theorem Owns.put_other {o : ScopeId} {found : Held} (owns : s.Owns u name o found)
    (holds : s.own? owner name = some held) (differs : o ≠ owner) (new : Held) :
    (s.put owner name new).Owns u name o found := by
  obtain ⟨⟨inner, outer, chain, hidden⟩, here⟩ := owns
  refine ⟨⟨inner, outer, ?_, fun o member => undeclared_put holds new (hidden o member)⟩, ?_⟩
  · exact (congrArg (u :: ·) (s.ancestors_put owner u name new)).trans chain
  · exact (s.own?_put_of_ne owner o name name new fun same => differs (Prod.mk.inj same).1.symm).trans here

/-- A lookup that a write to a variable changes has found that variable. -/
theorem owns_of_lookup_put_ne {other : String} {new : Held} (holds : s.own? owner name = some held)
    (differs : (s.put owner name new).lookup u other ≠ s.lookup u other) :
    other = name ∧ s.Owns u name owner held := by
  have same : other = name := by
    by_contra elsewhere
    exact differs (lookup_put_of_ne elsewhere)
  subst same
  refine ⟨rfl, ?_⟩
  cases answer : s.owner? u other with
  | none =>
      have undeclared := (s.owner?_eq_none_iff u other).mp answer
      refine absurd (lookup_put_of_not_mem fun member => ?_) differs
      cases holds.symm.trans (undeclared owner member)
  | some o =>
      obtain ⟨found, owns⟩ := (s.owner?_eq_some_iff u other o).mp answer
      by_cases place : o = owner
      · subst place
        cases owns.holds.symm.trans holds
        exact owns
      · rw [(owns.put_other holds place new).lookup_eq, owns.lookup_eq] at differs
        exact absurd rfl differs

theorem Assigns.owns_of_lookup_ne {update : String × Value} (assigns : s.Assigns id update t) {other : String}
    (differs : t.lookup u other ≠ s.lookup u other) :
    other = update.1 ∧ ∃ owner held w, s.Owns id update.1 owner held ∧ s.Owns u update.1 owner held ∧
      update.2.Fits held.type w ∧ t.lookup u update.1 = some (w, owner) := by
  cases assigns with
  | kept => exact absurd rfl differs
  | @changed owner held w owns fits =>
      obtain ⟨same, reads⟩ := owns_of_lookup_put_ne owns.holds differs
      exact ⟨same, owner, held, w, owns, reads, fits, (reads.put _).lookup_eq⟩

theorem Assigns.lookup_eq_of_not_mem {update : String × Value} (assigns : s.Assigns id update t)
    (owns : s.Owns id update.1 owner held) (apart : owner ∉ s.chain u) (other : String) :
    t.lookup u other = s.lookup u other := by
  cases assigns with
  | kept => rfl
  | changed found =>
      obtain ⟨rfl, -⟩ := owns.unique found
      exact lookup_put_of_not_mem apart

theorem ne_of_lookup {found : Value × ScopeId} (fresh : s.own? id name = none)
    (answer : s.lookup u name = some found) : found.2 ≠ id := by
  rintro rfl
  obtain ⟨held, owns, -⟩ := exists_owns_of_lookup answer
  cases fresh.symm.trans owns.holds

section Declaring

variable {vs : List Variable} (all : s.DeclaresAll id vs t)
include all

theorem DeclaresAll.own?_eq_of_ne {o : ScopeId} (elsewhere : o ≠ id) (other : String) :
    t.own? o other = s.own? o other :=
  all.others o other fun same => absurd same elsewhere

theorem DeclaresAll.owns_of_sees {v : Variable} (listed : v ∈ vs) (sees : s.Sees u id v.name) :
    t.Owns u v.name id v.toHeld := by
  obtain ⟨inner, outer, chain, hidden⟩ := sees
  -- The declaring store may stand in `inner` again, so the first place that it stands at is the one.
  obtain ⟨first, rest, split, free⟩ :=
    List.eq_append_cons_of_mem (List.mem_append_right inner (List.mem_singleton_self id))
  have within (o : ScopeId) (member : o ∈ first) : t.own? o v.name = none := by
    have elsewhere : o ≠ id := ne_of_mem_of_not_mem member free
    rw [all.own?_eq_of_ne elsewhere]
    have inside : o ∈ inner ++ [id] := split ▸ List.mem_append_left _ member
    exact hidden o ((List.mem_append.mp inside).resolve_right fun last =>
      elsewhere (List.mem_singleton.mp last))
  refine ⟨⟨first, rest ++ outer, ?_, within⟩, all.declared v listed⟩
  calc
    t.chain u = (inner ++ [id]) ++ outer := by
      rw [all.chain_eq, chain, List.append_assoc, List.singleton_append]
    _ = first ++ id :: (rest ++ outer) := by rw [split, List.append_assoc, List.cons_append]

theorem DeclaresAll.lookup_eq_of_not_sees (fresh : s.own? id name = none) (unseen : ¬ s.Sees u id name) :
    t.lookup u name = s.lookup u name := by
  cases answer : s.owner? u name with
  | none =>
      have undeclared := (s.owner?_eq_none_iff u name).mp answer
      have apart : id ∉ s.chain u := fun member => by
        obtain ⟨inner, outer, chain⟩ := List.append_of_mem member
        exact unseen ⟨inner, outer, chain, fun o inside =>
          undeclared o (chain ▸ List.mem_append_left _ inside)⟩
      exact lookup_congr s t u name (all.chain_eq u) fun o member =>
        all.own?_eq_of_ne (ne_of_mem_of_not_mem member apart) name
  | some o =>
      obtain ⟨held, owns⟩ := (s.owner?_eq_some_iff u name o).mp answer
      obtain ⟨inner, outer, chain, hidden⟩ := owns.innermost
      have before : id ∉ inner := fun member => by
        obtain ⟨front, back, rfl⟩ := List.append_of_mem member
        exact unseen ⟨front, back ++ o :: outer, by simpa using chain,
          fun x inside => hidden x (List.mem_append_left _ inside)⟩
      have elsewhere : o ≠ id := by
        rintro rfl
        cases fresh.symm.trans owns.holds
      have kept : t.Owns u name o held := by
        refine ⟨⟨inner, outer, (all.chain_eq u).trans chain, fun x inside => ?_⟩, ?_⟩
        · exact (all.own?_eq_of_ne (ne_of_mem_of_not_mem inside before) name).trans (hidden x inside)
        · exact (all.own?_eq_of_ne elsewhere name).trans owns.holds
      rw [kept.lookup_eq, owns.lookup_eq]

theorem DeclaresAll.lookup_ne_iff (fresh : ∀ v ∈ vs, s.own? id v.name = none) (other : String) :
    t.lookup u other ≠ s.lookup u other ↔ other ∈ vs.map (·.name) ∧ s.Sees u id other := by
  constructor
  · intro differs
    have listed : other ∈ vs.map (·.name) := by
      by_contra unlisted
      exact differs (lookup_congr s t u other (all.chain_eq u) fun o _ =>
        all.others o other fun _ => unlisted)
    refine ⟨listed, ?_⟩
    by_contra unseen
    obtain ⟨v, member, rfl⟩ := List.mem_map.mp listed
    exact differs (all.lookup_eq_of_not_sees (fresh v member) unseen)
  · rintro ⟨listed, sees⟩ same
    obtain ⟨v, member, rfl⟩ := List.mem_map.mp listed
    rw [(all.owns_of_sees member sees).lookup_eq] at same
    exact ne_of_lookup (fresh v member) same.symm rfl

end Declaring

/-- A write changes only the lookups of its name that found the same variable as it, and these find what was
written. A declaration changes exactly the lookups of its name that come to its store before another that
declares the name, and these find the new variable. So stores beside the one that holds the variable, nested
in the same store or outside it, do not notice. -/
theorem scoping_exact :
    ∀ s : Stores, Reached s → ∀ id < s.all.length,
      (∀ (name : String) (value : Value) (m : Mutation), s.set id name value = .ok m →
        (∀ u other, m.stores.lookup u other ≠ s.lookup u other →
          other = name ∧ ∃ owner held w, s.Owns id name owner held ∧ s.Owns u name owner held ∧
            value.Fits held.type w ∧ m.stores.lookup u name = some (w, owner)) ∧
        ∀ owner held, s.Owns id name owner held → ∀ u, s.Beside owner u → ∀ other,
          m.stores.lookup u other = s.lookup u other) ∧
      ∀ (v : Variable) (m : Mutation), s.declareAll id [v] = .ok m →
        (∀ u other, m.stores.lookup u other ≠ s.lookup u other ↔ other = v.name ∧ s.Sees u id v.name) ∧
        (∀ u, s.Sees u id v.name → m.stores.lookup u v.name = some (v.value, id)) ∧
        ∀ u, s.Beside id u → ∀ other, m.stores.lookup u other = s.lookup u other := by
  intro s reached id inside
  constructor
  · intro name value m done
    have assigns : s.Assigns id (name, value) m.stores :=
      (s.set_eq_ok_iff id (name, value) _).mp ⟨m, done, rfl⟩
    exact ⟨fun u other differs => assigns.owns_of_lookup_ne differs, fun owner held owns u beside =>
      assigns.lookup_eq_of_not_mem owns (beside.not_mem_chain reached.rooted)⟩
  · intro v m done
    obtain ⟨⟨-, fresh⟩, -⟩ := (s.declareAll_eq_ok_iff id [v] m).mp done
    have all := s.declaresAll_of_declareAll id done inside
    have exactly (u other) : m.stores.lookup u other ≠ s.lookup u other ↔
      other = v.name ∧ s.Sees u id v.name := by
      rw [all.lookup_ne_iff fresh, List.map_singleton, List.mem_singleton]
      exact and_congr_right fun same => same ▸ Iff.rfl
    refine ⟨exactly, fun u sees => (all.owns_of_sees (List.mem_singleton_self v) sees).lookup_eq, ?_⟩
    intro u beside other
    by_contra differs
    obtain ⟨-, inner, outer, chain, -⟩ := (exactly u other).mp differs
    exact beside.not_mem_chain reached.rooted (chain ▸ List.mem_append_right inner List.mem_cons_self)

/-- Two stores nested in one that declares the name: a write through the first changes what the second reads,
and after a declaration in the first it is hidden there and kept in the second. -/
theorem scoping_exact_of_siblings :
    ∃ (s : Stores) (m n : Mutation) (v : Variable), Reached s ∧ s.set 1 "x" (.integer 2) = .ok m ∧
      (∃ owner held w, s.Owns 1 "x" owner held ∧ s.Owns 2 "x" owner held ∧
        (Value.integer 2).Fits held.type w ∧ m.stores.lookup 2 "x" = some (w, owner)) ∧
      s.declareAll 1 [v] = .ok n ∧ n.stores.lookup 1 "x" = some (v.value, 1) ∧
      n.stores.lookup 2 "x" = s.lookup 2 "x" ∧ n.stores.lookup 0 "x" = s.lookup 0 "x" := by
  let root := (Stores.create {} none).2
  let outer := root.put 0 "x" ⟨.integer, .integer 1⟩
  let s := ((outer.create (some 0)).2.create (some 0)).2
  let v : Variable := .infer "x" (.string "a")
  let m : Mutation := ⟨s.put 0 "x" ⟨.integer, .integer 2⟩, ⟨[(0, "x")], []⟩, [0]⟩
  let n : Mutation := ⟨s.put 1 "x" v.toHeld, ⟨[], ["x"]⟩, [1]⟩
  have declares : Moves root outer := .declareAll 0 [.infer "x" (.integer 1)] (by decide) fun v member => by
    cases List.mem_singleton.mp member
    exact .infer "x" (.integer 1)
  have reached : Reached s :=
    (((Relation.ReflTransGen.single (.create none nofun)).tail declares).tail
      (.create (some 0) fun p same => by cases same; decide)).tail
      (.create (some 0) fun p same => by cases same; decide)
  obtain ⟨writes, declarations⟩ := scoping_exact s reached 1 (by decide)
  have written : s.set 1 "x" (.integer 2) = .ok m := rfl
  have declared : s.declareAll 1 [v] = .ok n := rfl
  have differs : m.stores.lookup 2 "x" ≠ s.lookup 2 "x" := by
    show some (Value.integer 2, 0) ≠ some (Value.integer 1, 0)
    simp
  obtain ⟨-, sees, beside⟩ := declarations v n declared
  exact ⟨s, m, n, v, reached, written, ((writes "x" (.integer 2) m written).1 2 "x" differs).2, declared,
    sees 1 ⟨[], [0], rfl, nofun⟩, beside 2 (.sibling (by decide) rfl) "x",
    beside 0 (.outer List.mem_cons_self) "x"⟩

end CardExpr.Stores
