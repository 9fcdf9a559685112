import CardExpr.Evaluation.Basic
import CardExpr.Store.Variable

/-!
Stores of variables. A store looks a name up in itself and then in the stores that it was nested in;
writes go to the store that declares the variable. An operation succeeds as a whole or changes nothing.
-/

namespace CardExpr

/-- Observers are numbered in the order of their creation. -/
abbrev ObserverId := Nat

structure Store where
  /-- The stores that it is nested in, the nearest first. -/
  ancestors : List ScopeId := []
  declared : Table Held := []
  /-- In the order of their registration, each as often as it was registered. -/
  observers : List ObserverId := []

structure Stores where
  all : List Store := []

/-- Stores after an operation, what it changed, and the stores that own what it changed. -/
structure Mutation where
  stores : Stores
  change : StoreChange := {}
  touched : List ScopeId := []

namespace Stores

def store (s : Stores) (id : ScopeId) : Store := s.all[id]?.getD {}

def modify (s : Stores) (id : ScopeId) (f : Store → Store) : Stores := ⟨s.all.modify id f⟩

/-- A store and those that it is nested in, the innermost first. -/
def chain (s : Stores) (id : ScopeId) : List ScopeId := id :: (s.store id).ancestors

def parent? (s : Stores) (id : ScopeId) : Option ScopeId := (s.store id).ancestors.head?

def create (s : Stores) (parent : Option ScopeId) : ScopeId × Stores :=
  let ancestors := match parent with
    | some p => s.chain p
    | none => []
  (s.all.length, ⟨s.all ++ [{ ancestors := ancestors }]⟩)

def own? (s : Stores) (id : ScopeId) (name : String) : Option Held :=
  (s.store id).declared.find? name

/-- The innermost store of the chain that declares the name. -/
def owner? (s : Stores) (id : ScopeId) (name : String) : Option ScopeId :=
  (s.chain id).find? fun o => (s.own? o name).isSome

def lookup (s : Stores) (id : ScopeId) (name : String) : Option (Value × ScopeId) :=
  (s.chain id).findSome? fun o => (s.own? o name).map fun h => (h.value, o)

def get? (s : Stores) (id : ScopeId) (name : String) : Option Value := (s.lookup id name).map (·.1)

def contains (s : Stores) (id : ScopeId) (name : String) : Bool := (s.owner? id name).isSome

def declaredType? (s : Stores) (id : ScopeId) (name : String) : Option ValueType := do
  let o ← s.owner? id name
  let h ← s.own? o name
  pure h.type

def names (s : Stores) (id : ScopeId) : List String := (s.store id).declared.keys

/-- Every visible variable; inner ones hide outer ones. -/
def snapshot (s : Stores) (id : ScopeId) : Table Value :=
  (s.chain id).reverse.foldl
    (fun t o => (s.store o).declared.foldl (fun t entry => t.insert entry.1 entry.2.value) t) []

def resolver (s : Stores) (id : ScopeId) : Resolver := fun name =>
  (s.lookup id name).map fun (v, scope) => ⟨v, some scope⟩

def put (s : Stores) (id : ScopeId) (name : String) (held : Held) : Stores :=
  s.modify id fun store => { store with declared := store.declared.insert name held }

/-- The first name that the store already declares or that an earlier one repeats. -/
def firstTaken (own : Table Held) : (seen : List String) → List String → Option String
  | _, [] => none
  | seen, name :: rest =>
    if own.contains name || seen.contains name then some name
    else firstTaken own (name :: seen) rest

def declareAll (s : Stores) (id : ScopeId) (vs : List Variable) : Except VariableError Mutation :=
  match firstTaken (s.store id).declared [] (vs.map (·.name)) with
  | some name => .error (.alreadyDeclared name)
  | none =>
    .ok ⟨vs.foldl (fun t v => t.put id v.name v.toHeld) s, .ofLists [] (vs.map (·.name)), [id]⟩

/-- A checked write: the store that declares the variable, and the value as the variable holds it. -/
structure Write where
  owner : ScopeId
  name : String
  value : Value

def check (s : Stores) (id : ScopeId) (update : String × Value) : Except VariableError Write := do
  let name := update.1
  match s.owner? id name with
  | none => .error (.unknown name)
  | some owner =>
    match s.own? owner name with
    | none => .error (.unknown name)
    | some held => (conformTo name held.type update.2).map fun v => ⟨owner, name, v⟩

end Stores

/-- A value equal to the held one is not written. -/
def Mutation.write (m : Mutation) (w : Stores.Write) : Mutation :=
  match m.stores.own? w.owner w.name with
  | none => m
  | some held =>
    if held.value.same w.value then m
    else
      { stores := m.stores.put w.owner w.name { held with value := w.value }
        change := m.change.update w.owner w.name
        touched := if m.touched.contains w.owner then m.touched else m.touched ++ [w.owner] }

namespace Stores

/-- Checks every update before the first write. -/
def batchSet (s : Stores) (id : ScopeId) (updates : List (String × Value)) :
    Except VariableError Mutation :=
  (updates.mapM (s.check id)).map fun writes => writes.foldl Mutation.write { stores := s }

def set (s : Stores) (id : ScopeId) (name : String) (value : Value) : Except VariableError Mutation :=
  s.batchSet id [(name, value)]

def observe (s : Stores) (id : ScopeId) (observer : ObserverId) : Stores :=
  s.modify id fun store => { store with observers := store.observers ++ [observer] }

end Stores

/-- The observers that hear of a mutation, each once: those of the first touched store first. -/
def Mutation.listeners (m : Mutation) (isAlive : ObserverId → Bool) : List ObserverId :=
  if m.change.isEmpty then []
  else
    (m.touched.flatMap fun id => (m.stores.store id).observers.filter isAlive).foldl
      (fun known o => if known.contains o then known else known ++ [o]) []

end CardExpr
