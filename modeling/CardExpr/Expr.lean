import CardExpr.Table

/-! Expression trees. -/

namespace CardExpr

inductive BinaryOp where
  | equal
  | notEqual
  | less
  | greater
  | lessEqual
  | greaterEqual
  | add
  | subtract
  | multiply
  | divide
  | modulo
  | and
  | or
  deriving DecidableEq, Repr

def BinaryOp.symbol : BinaryOp → String
  | .equal => "=="
  | .notEqual => "!="
  | .less => "<"
  | .greater => ">"
  | .lessEqual => "<="
  | .greaterEqual => ">="
  | .add => "+"
  | .subtract => "-"
  | .multiply => "*"
  | .divide => "/"
  | .modulo => "%"
  | .and => "&&"
  | .or => "||"

inductive UnaryOp where
  | not
  | negate
  | plus
  deriving DecidableEq, Repr

def UnaryOp.symbol : UnaryOp → String
  | .not => "!"
  | .negate => "-"
  | .plus => "+"

mutual

inductive Expr where
  | integer (value : Int64)
  | number (value : Float)
  | string (value : String)
  | boolean (value : Bool)
  | variable (name : String)
  | unary (op : UnaryOp) (operand : Expr)
  | binary (op : BinaryOp) (left right : Expr)
  | ternary (condition thenBranch elseBranch : Expr)
  /-- The fallback stands in for an operand that fails. -/
  | rescue (operand fallback : Expr)
  | call (name : String) (args : List Expr)
  /-- The receiver is the first argument. -/
  | method (receiver : Expr) (name : String) (args : List Expr)
  | index (target key : Expr)
  | template (parts : List TemplatePart)

/-- A piece of a template: literal text or a span. -/
inductive TemplatePart where
  | text (content : String)
  | span (expr : Expr)

end

namespace Expr

mutual

/-- The variables that occur in the tree, in the order of reading. -/
def occurrences : Expr → List String
  | .integer _ => []
  | .number _ => []
  | .string _ => []
  | .boolean _ => []
  | .variable name => [name]
  | .unary _ operand => occurrences operand
  | .binary _ left right => occurrences left ++ occurrences right
  | .ternary c a b => occurrences c ++ occurrences a ++ occurrences b
  | .rescue operand fallback => occurrences operand ++ occurrences fallback
  | .call _ args => occurrencesOfAll args
  | .method receiver _ args => occurrences receiver ++ occurrencesOfAll args
  | .index target key => occurrences target ++ occurrences key
  | .template parts => occurrencesOfParts parts

def occurrencesOfAll : List Expr → List String
  | [] => []
  | e :: es => occurrences e ++ occurrencesOfAll es

def occurrencesOfParts : List TemplatePart → List String
  | [] => []
  | .text _ :: rest => occurrencesOfParts rest
  | .span e :: rest => occurrences e ++ occurrencesOfParts rest

end

/-- The names of the variables that occur in the tree, whether an evaluation reaches them or not. -/
def variableNames (e : Expr) : List String := nameSet e.occurrences

end Expr

end CardExpr
