import CardExpr.Store.Change

/-! What an evaluation looked up. -/

namespace CardExpr

/-- A name that was looked up, and the store that it was found in. -/
structure VariableRead where
  name : String
  scope : Option ScopeId
  deriving DecidableEq, Repr

/-- By name, then by store, no store being first. -/
def VariableRead.before (a b : VariableRead) : Bool :=
  if a.name = b.name then
    match a.scope, b.scope with
    | none, some _ => true
    | some s, some t => decide (s < t)
    | _, none => false
  else nameBefore a.name b.name

/-- Reads in order and without repetition. -/
abbrev ReadSet := List VariableRead

namespace ReadSet

def ofReads (reads : List VariableRead) : ReadSet := orderedSet VariableRead.before reads

def names (reads : ReadSet) : List String := nameSet (reads.map (·.name))

def mentions (reads : ReadSet) (name : String) : Bool := reads.any fun r => r.name == name

/-- Whether the change may give this read another answer: an update where the name was found, any update
of it where it was not, and any declaration of it. -/
def isHit (change : StoreChange) (read : VariableRead) : Bool :=
  change.declared.contains read.name ||
    change.updated.any fun u =>
      u.2 == read.name &&
        match read.scope with
        | none => true
        | some s => s == u.1

def isAffectedBy (reads : ReadSet) (change : StoreChange) : Bool := reads.any (isHit change)

end ReadSet

end CardExpr
