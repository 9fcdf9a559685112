import CardExpr.Evaluation.Error

/-! What a function accepts and returns. -/

namespace CardExpr

/-- The types that one argument may have. -/
inductive ArgType where
  /-- This type; an integer passed for a number is widened. -/
  | of (type : ValueType)
  /-- Integers and numbers, as they are. -/
  | numeric
  | any
  | oneOf (types : List ValueType)
  deriving DecidableEq, Repr

namespace ArgType

def accepts : ArgType → ValueType → Bool
  | .of .number, t => t == .number || t == .integer
  | .of expected, t => expected == t
  | .numeric, t => t == .integer || t == .number
  | .any, _ => true
  | .oneOf types, t => types.contains t

/-- Widens an integer where a number is declared. -/
def coerce : ArgType → Value → Value
  | .of .number, .integer n => .number n.toFloat
  | _, v => v

def text : ArgType → String
  | .of t => t.name
  | .numeric => "integer or number"
  | .any => "any"
  | .oneOf types => " or ".intercalate (types.map (·.name))

end ArgType

/-- How many arguments a signature takes. -/
inductive Arity where
  | exact (count : Nat)
  | atLeast (count : Nat)
  deriving DecidableEq, Repr

namespace Arity

def admits : Arity → Nat → Bool
  | .exact n, count => count == n
  | .atLeast n, count => decide (n ≤ count)

/-- Whether some argument count fits both. -/
def overlaps : Arity → Arity → Bool
  | .exact a, .exact b => a == b
  | .exact n, .atLeast low => decide (low ≤ n)
  | .atLeast low, .exact n => decide (low ≤ n)
  | .atLeast _, .atLeast _ => true

def least : Arity → Nat
  | .exact n => n
  | .atLeast n => n

theorem overlaps_iff (a b : Arity) : a.overlaps b = true ↔ ∃ n, a.admits n = true ∧ b.admits n = true := by
  cases a with
  | exact m =>
    cases b with
    | exact n => simp [overlaps, admits]
    | atLeast n => simp [overlaps, admits]
  | atLeast m =>
    cases b with
    | exact n => simp [overlaps, admits]
    | atLeast n =>
      simp only [overlaps, admits, decide_eq_true_eq, true_iff]
      exact ⟨max m n, Nat.le_max_left _ _, Nat.le_max_right _ _⟩

end Arity

structure Signature where
  args : List ArgType
  /-- The type of any number of further arguments. -/
  tail : Option ArgType := none
  returns : ValueType
  deriving DecidableEq, Repr

namespace Signature

def arity (s : Signature) : Arity :=
  match s.tail with
  | some _ => .atLeast s.args.length
  | none => .exact s.args.length

def argType? (s : Signature) (index : Nat) : Option ArgType :=
  match s.args[index]? with
  | some t => some t
  | none => s.tail

def text (s : Signature) : String :=
  let params := s.args.map (·.text) ++ (s.tail.map fun t => t.text ++ "...").toList
  "(" ++ ", ".intercalate params ++ ") -> " ++ s.returns.name

end Signature

end CardExpr
