import CardExpr.Table

/-! What one operation on the stores changed. -/

namespace CardExpr

/-- Stores are numbered in the order of their creation. -/
abbrev ScopeId := Nat

def updateBefore (a b : ScopeId × String) : Bool :=
  decide (a.1 < b.1) || (a.1 == b.1 && nameBefore a.2 b.2)

structure StoreChange where
  /-- The variables that hold another value than before, by the store that declares them. -/
  updated : List (ScopeId × String) := []
  /-- Names newly declared in some store. -/
  declared : List String := []
  deriving DecidableEq, Repr

namespace StoreChange

/-- A change with its parts in order and without repetition. -/
def ofLists (updated : List (ScopeId × String)) (declared : List String) : StoreChange :=
  ⟨orderedSet updateBefore updated, nameSet declared⟩

def isEmpty (c : StoreChange) : Bool := c.updated.isEmpty && c.declared.isEmpty

def update (c : StoreChange) (scope : ScopeId) (name : String) : StoreChange :=
  { c with updated := insertOrdered updateBefore (scope, name) c.updated }

def touches (c : StoreChange) (name : String) : Bool :=
  c.declared.contains name || c.updated.any fun u => u.2 == name

end StoreChange

end CardExpr
