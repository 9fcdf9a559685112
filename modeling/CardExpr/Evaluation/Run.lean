import CardExpr.Evaluation.Error
import CardExpr.Evaluation.Reads

/-! Results of evaluation steps together with what they looked up and warned of. -/

namespace CardExpr

structure Warning where
  function : String
  message : String
  deriving DecidableEq, Repr

def Warning.text (w : Warning) : String := w.function ++ ": " ++ w.message

/-- A result with the reads and warnings on the way to it, in the order of their occurrence. A failure
keeps them. -/
structure Run (α : Type) where
  result : Except EvalError α
  reads : List VariableRead := []
  warnings : List Warning := []

namespace Run

variable {α β : Type}

def ofExcept (result : Except EvalError α) : Run α := { result := result }

def fail (e : EvalError) : Run α := { result := .error e }

/-- What `m` noted before what `r` noted, with the result of `r`. -/
def followedBy (m : Run α) (r : Run β) : Run β :=
  ⟨r.result, m.reads ++ r.reads, m.warnings ++ r.warnings⟩

def bind (m : Run α) (next : α → Run β) : Run β :=
  match m.result with
  | .ok a => m.followedBy (next a)
  | .error e => ⟨.error e, m.reads, m.warnings⟩

instance : Monad Run where
  pure a := { result := .ok a }
  bind := bind

/-- Lets `other` stand in for a failure, unless the depth limit caused it. -/
def rescue (m : Run α) (other : Unit → Run α) : Run α :=
  match m.result with
  | .ok _ => m
  | .error (.depthLimitExceeded _) => m
  | .error _ => m.followedBy (other ())

/-- A run whose reads are nobody else's concern. -/
def hideReads (m : Run α) : Run α := { m with reads := [] }

def mapError (m : Run α) (f : EvalError → EvalError) : Run α := { m with result := m.result.mapError f }

end Run

end CardExpr
