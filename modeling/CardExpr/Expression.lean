import CardExpr.Config
import CardExpr.Expr.Parser
import CardExpr.Value.Basic

/-! Parsed sources. -/

namespace CardExpr

inductive ExpressionError where
  | lex (error : LexError)
  | parse (error : ParseError)
  | tooLong (length limit : Nat)

def ExpressionError.message : ExpressionError → String
  | .lex e => e.message
  | .parse e => e.message
  | .tooLong length limit =>
    "expression is " ++ toString length ++ " characters long, the limit is " ++ toString limit

/-- The tree of a source of any length. -/
def parse (source : String) : Except ExpressionError Expr :=
  match tokenize source with
  | .error e => .error (.lex e)
  | .ok tokens =>
    match parseTokens tokens with
    | .error e => .error (.parse e)
    | .ok tree => .ok tree

/-- What a source means: a fixed value, or a tree to evaluate. -/
inductive Meaning where
  | constant (value : Value)
  | tree (expr : Expr)

structure Expression where
  source : String
  meaning : Meaning

namespace Expression

def meaningOf : Expr → Meaning
  | .string text => .constant (.string text)
  | expr => .tree expr

/-- Reads a source within the length limit. -/
def parse (source : String) (config : Config := {}) : Except ExpressionError Expression :=
  if config.maxExpressionLength < source.length then
    .error (.tooLong source.length config.maxExpressionLength)
  else (CardExpr.parse source).map fun expr => ⟨source, meaningOf expr⟩

/-- A malformed source stands for the fallback. -/
def parseOr (source : String) (fallback : Value) : Expression :=
  match parse source with
  | .ok expression => expression
  | .error _ => ⟨source, .constant fallback⟩

def constant (value : Value) : Expression := ⟨value.text, .constant value⟩

def isConstant (e : Expression) : Bool :=
  match e.meaning with
  | .constant _ => true
  | .tree _ => false

def variableNames (e : Expression) : List String :=
  match e.meaning with
  | .constant _ => []
  | .tree expr => expr.variableNames

end Expression

/-- Parsed sources by their text. The number of an entry tells whether two answers share a tree. -/
structure ExpressionCache where
  config : Config
  entries : Table (Nat × Expression) := []
  parsed : Nat := 0

namespace ExpressionCache

def getOrParse (cache : ExpressionCache) (source : String) :
    Except ExpressionError ((Nat × Expression) × ExpressionCache) :=
  match cache.entries.find? source with
  | some entry => .ok (entry, cache)
  | none =>
    (Expression.parse source cache.config).map fun expression =>
      let entry := (cache.parsed, expression)
      (entry, { cache with entries := cache.entries.insert source entry, parsed := cache.parsed + 1 })

def clear (cache : ExpressionCache) : ExpressionCache := { cache with entries := [] }

end ExpressionCache

end CardExpr
