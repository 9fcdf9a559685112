import Mathlib.Logic.Relation
import CardExpr.Proofs.Session.Atomicity
import CardExpr.Proofs.Store.Extension

/-!
The stores that can come about, by operations of which any may be refused. In all of them the stores that
a store is nested in are older than it: its parent, and what that is nested in.
-/

namespace CardExpr

/-- The ways to make a variable: of a given type, or of the type of its first value. -/
inductive Variable.Made : Variable → Prop where
  | ofType {name : String} {type : ValueType} {value : Value} {v : Variable}
      (done : Variable.ofType name type value = .ok v) : Made v
  | infer (name : String) (value : Value) : Made (.infer name value)

theorem VariableDeclaration.toVariable_eq_ok {d : VariableDeclaration} {v : Variable}
    (done : d.toVariable = .ok v) : ∃ value, Variable.ofType d.name d.type value = .ok v := by
  unfold toVariable at done
  cases read : Value.ofJsonAs d.value d.type with
  | error e =>
      rw [read] at done
      cases done
  | ok value =>
      rw [read] at done
      exact ⟨value, done⟩

namespace Stores

/-- The stores after an operation, which are the same if it is refused. -/
def outcome {ε : Type} (s : Stores) : Except ε Mutation → Stores
  | .ok m => m.stores
  | .error _ => s

/-- One operation. A parent, and a store that declares variables, is one of the stores. -/
inductive Moves (s : Stores) : Stores → Prop where
  | create (parent : Option ScopeId) (inside : ∀ p ∈ parent, p < s.all.length) :
      Moves s (s.create parent).2
  | declareAll (id : ScopeId) (vs : List Variable) (inside : id < s.all.length) (made : ∀ v ∈ vs, v.Made) :
      Moves s (s.outcome (s.declareAll id vs))
  | declareCard (id : ScopeId) (d : CardDeclarations) (inside : id < s.all.length) :
      Moves s (s.outcome (d.declareVariables s id))
  | set (id : ScopeId) (name : String) (value : Value) : Moves s (s.outcome (s.set id name value))
  | batchSet (id : ScopeId) (updates : List (String × Value)) :
      Moves s (s.outcome (s.batchSet id updates))
  | observe (id : ScopeId) (observer : ObserverId) : Moves s (s.observe id observer)

abbrev Later : Stores → Stores → Prop := Relation.ReflTransGen Moves

/-- The stores that can come about. -/
def Reached (s : Stores) : Prop := Later {} s

/-- What an operation can do: nothing, if it is refused too. -/
inductive Alters (s : Stores) : Stores → Prop where
  | nothing : Alters s s
  | created (parent : Option ScopeId) (inside : ∀ p ∈ parent, p < s.all.length) : Alters s (s.create parent).2
  | observed (id : ScopeId) (observer : ObserverId) : Alters s (s.observe id observer)
  | declared {id : ScopeId} {vs : List Variable} {m : Mutation} (inside : id < s.all.length)
      (made : ∀ v ∈ vs, v.Made) (done : s.declareAll id vs = .ok m) : Alters s m.stores
  | written {id : ScopeId} {updates : List (String × Value)} {m : Mutation}
      (done : s.batchSet id updates = .ok m) : Alters s m.stores

variable {s t : Stores}

theorem Moves.alters (moves : s.Moves t) : s.Alters t := by
  cases moves with
  | create parent inside => exact .created parent inside
  | declareAll id vs inside made =>
      cases done : s.declareAll id vs with
      | error e => exact .nothing
      | ok m => exact .declared inside made done
  | declareCard id d inside =>
      cases done : d.declareVariables s id with
      | error e => exact .nothing
      | ok m =>
          rw [d.declareVariables_eq] at done
          cases declared : d.declare s id with
          | error e =>
              rw [declared] at done
              cases done
          | ok n =>
              rw [declared] at done
              cases done
              obtain ⟨vs, converted, all⟩ := (d.declare_eq_ok_iff s id m).mp declared
              refine .declared inside (fun v member => ?_) all
              obtain ⟨p, -, same⟩ := exists_left_of_mem converted member
              obtain ⟨value, made⟩ := p.toVariable_eq_ok same
              exact .ofType made
  | set id name value =>
      cases done : s.set id name value with
      | error e => exact .nothing
      | ok m => exact .written done
  | batchSet id updates =>
      cases done : s.batchSet id updates with
      | error e => exact .nothing
      | ok m => exact .written done
  | observe id observer => exact .observed id observer

theorem Later.preserves {P : Stores → Prop} (preserved : ∀ s t, P s → s.Alters t → P t) (later : Later s t)
    (before : P s) : P t := by
  induction later with
  | refl => exact before
  | tail _ moves ih => exact preserved _ _ ih moves.alters

/-- What every write on its own preserves, a batch preserves. -/
theorem setEach_preserves {P : Stores → Prop} {id : ScopeId}
    (assigned : ∀ t u update, P t → t.Assigns id update u → P u) {updates : List (String × Value)}
    (done : s.setEach id updates = .ok t) (before : P s) : P t := by
  induction updates generalizing s with
  | nil =>
      cases done
      exact before
  | cons update rest ih =>
      unfold setEach at done
      rw [List.foldlM_cons] at done
      cases first : s.set id update.1 update.2 with
      | error e =>
          rw [first] at done
          cases done
      | ok m =>
          rw [first] at done
          have assigns := (s.set_eq_ok_iff id update m.stores).mp ⟨m, first, rfl⟩
          exact ih done (assigned s m.stores update before assigns)

theorem ancestors_observe (s : Stores) (id other : ScopeId) (observer : ObserverId) :
    ((s.observe id observer).store other).ancestors = (s.store other).ancestors := by
  unfold observe
  rw [store_modify]
  split <;> rfl

theorem own?_observe (s : Stores) (id other : ScopeId) (observer : ObserverId) (name : String) :
    (s.observe id observer).own? other name = s.own? other name := by
  unfold own? observe
  rw [store_modify]
  split <;> rfl

theorem store_of_length_le {id : ScopeId} (outside : s.all.length ≤ id) : s.store id = {} := by
  unfold store
  rw [List.getElem?_eq_none outside]
  rfl

theorem lt_length_of_own? {id : ScopeId} {name : String} {held : Held} (found : s.own? id name = some held) :
    id < s.all.length := by
  by_contra outside
  unfold own? at found
  rw [store_of_length_le (Nat.le_of_not_lt outside)] at found
  cases found

theorem own?_create (s : Stores) (parent : Option ScopeId) (id : ScopeId) (name : String) :
    (s.create parent).2.own? id name = s.own? id name := by
  unfold own?
  rw [store_create]
  split
  next new => rw [store_of_length_le (Nat.le_of_eq new.symm)]
  next => rfl

/-- Stores are nested in older ones, and in those that their parent is nested in. -/
structure Rooted (s : Stores) : Prop where
  older : ∀ id, ∀ o ∈ (s.store id).ancestors, o < id
  linked : ∀ id p, s.parent? id = some p → (s.store id).ancestors = s.chain p

theorem Rooted.of_same_ancestors (rooted : s.Rooted)
    (same : ∀ id, (t.store id).ancestors = (s.store id).ancestors) : t.Rooted where
  older id o member := rooted.older id o (same id ▸ member)
  linked id p parent := by
    unfold parent? at parent
    unfold chain
    rw [same] at parent
    rw [same, same]
    exact rooted.linked id p parent

theorem Rooted.create (rooted : s.Rooted) (parent : Option ScopeId)
    (inside : ∀ p ∈ parent, p < s.all.length) : (s.create parent).2.Rooted := by
  have chain_eq : ∀ p < s.all.length, (s.create parent).2.chain p = s.chain p := fun p below => by
    unfold chain
    rw [store_create, if_neg (Nat.ne_of_lt below)]
  constructor
  · intro id o member
    rw [store_create] at member
    split at member
    next new =>
      subst new
      cases parent with
      | none => cases member
      | some p =>
          rcases List.mem_cons.mp member with rfl | further
          · exact inside o rfl
          · exact Nat.lt_trans (rooted.older p o further) (inside p rfl)
    next => exact rooted.older id o member
  · intro id p found
    unfold parent? at found
    rw [store_create] at found ⊢
    split at found
    next new =>
      rw [if_pos new]
      cases parent with
      | none => cases found
      | some q =>
          cases found
          exact (chain_eq p (inside p rfl)).symm
    next old =>
      rw [if_neg old, rooted.linked id p found]
      have member : p ∈ (s.store id).ancestors := List.mem_of_head? found
      have below : id < s.all.length := by
        by_contra outside
        rw [store_of_length_le (Nat.le_of_not_lt outside)] at member
        cases member
      exact (chain_eq p (Nat.lt_trans (rooted.older id p member) below)).symm

theorem Alters.rooted (alters : s.Alters t) (rooted : s.Rooted) : t.Rooted := by
  cases alters with
  | nothing => exact rooted
  | created parent inside => exact rooted.create parent inside
  | observed id observer => exact rooted.of_same_ancestors fun other => s.ancestors_observe id other observer
  | declared inside made done =>
      exact rooted.of_same_ancestors (accounts_of_declareAll s _ _ _ done).ancestors_eq
  | written done => exact rooted.of_same_ancestors (accounts_of_batchSet s _ _ _ done).ancestors_eq

theorem Reached.rooted (reached : Reached s) : s.Rooted := by
  refine Later.preserves (fun _ _ rooted alters => alters.rooted rooted) reached ⟨?_, ?_⟩
  · intro id o member
    cases member
  · intro id p found
    cases found

end Stores

end CardExpr
