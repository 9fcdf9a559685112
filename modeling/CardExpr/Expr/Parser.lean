import CardExpr.Expr
import CardExpr.Token.Lexer

/-!
From tokens to a tree. From the loosest to the tightest binding: the ternary, the rescue operator, or,
and, equality, comparison, sums, products, signs, and calls, methods and indexing.
-/

namespace CardExpr

/-- What a token would have to be for the source to go on. -/
inductive Expected where
  | startOfString
  | endOfInput
  | expression
  | closeSpan
  | textOrSpan
  | textSpanOrQuote
  | ternaryColon
  | methodName
  | methodParen
  | closeBracket
  | closeParen
  | commaOrParen
  deriving DecidableEq, Repr

def Expected.describe : Expected → String
  | .startOfString => "start of string"
  | .endOfInput => "end of input"
  | .expression => "expression"
  | .closeSpan => "'\x7d'"
  | .textOrSpan => "text or '@\x7b'"
  | .textSpanOrQuote => "text, '@\x7b' or closing quote"
  | .ternaryColon => "':' in ternary expression"
  | .methodName => "method name after '.'"
  | .methodParen => "'(' after method name"
  | .closeBracket => "']'"
  | .closeParen => "')'"
  | .commaOrParen => "',' or ')'"

structure ParseError where
  expected : Expected
  found : Token

def ParseError.message (e : ParseError) : String :=
  "expected " ++ e.expected.describe ++ " at " ++ offsetText e.found.offset ++ ", found " ++
    e.found.kind.describe

namespace Parser

/-- A place in a token list: the token that is looked at, the ones ahead, and how many were taken. -/
structure Cursor where
  current : Token
  ahead : List Token
  taken : Nat

/-- Takes the current token. The last one stays in sight. -/
def Cursor.advance (c : Cursor) : Cursor :=
  match c.ahead with
  | [] => { c with taken := c.taken + 1 }
  | next :: ahead => ⟨next, ahead, c.taken + 1⟩

end Parser

abbrev Parser := EStateM ParseError Parser.Cursor

namespace Parser

def fail {α : Type} (expected : Expected) : Parser α := do
  throw ⟨expected, (← get).current⟩

def peek : Parser TokenKind := return (← get).current.kind

def advance : Parser Unit := modify Cursor.advance

def expect (accepts : TokenKind → Bool) (expected : Expected) : Parser Unit := do
  if accepts (← peek) then advance else fail expected

def isTemplateStart : TokenKind → Bool
  | .templateStart => true
  | _ => false

def isSpanEnd : TokenKind → Bool
  | .spanEnd => true
  | _ => false

def isColon : TokenKind → Bool
  | .colon => true
  | _ => false

def isOpenParen : TokenKind → Bool
  | .openParen => true
  | _ => false

def isCloseParen : TokenKind → Bool
  | .closeParen => true
  | _ => false

def isCloseBracket : TokenKind → Bool
  | .closeBracket => true
  | _ => false

def isEndOfInput : TokenKind → Bool
  | .endOfInput => true
  | _ => false

/-- The left-associative operators by level, the loosest first. -/
def operatorAt : (level : Nat) → TokenKind → Option BinaryOp
  | 0, .either => some .or
  | 1, .both => some .and
  | 2, .equal => some .equal
  | 2, .notEqual => some .notEqual
  | 3, .less => some .less
  | 3, .greater => some .greater
  | 3, .lessEqual => some .lessEqual
  | 3, .greaterEqual => some .greaterEqual
  | 4, .plus => some .add
  | 4, .minus => some .subtract
  | 5, .star => some .multiply
  | 5, .slash => some .divide
  | 5, .percent => some .modulo
  | _, _ => none

def levels : Nat := 6

def signOf? : TokenKind → Option UnaryOp
  | .bang => some .not
  | .minus => some .negate
  | .plus => some .plus
  | _ => none

/-- A template as a tree. A template without spans is a string, and the source itself is the value of
its span if it is nothing else. -/
def templateOf (quoted : Bool) : List TemplatePart → Expr
  | [] => .string ""
  | [.text content] => .string content
  | [.span expr] => if quoted then .template [.span expr] else expr
  | parts => .template parts

/-- The name of a method. A token that is none is the error; of the last token it is the point before
it. -/
def methodName (point : Token) : Parser String := do
  let cursor ← get
  match cursor.current.kind with
  | .identifier name => do
    advance
    pure name
  | _ => do
    advance
    throw ⟨.methodName, if cursor.ahead.isEmpty then point else cursor.current⟩

mutual

def parts (quoted : Bool) : (fuel : Nat) → Parser (List TemplatePart)
  | 0 => fail .expression
  | fuel + 1 => do
    match ← peek with
    | .text content => do
      advance
      let rest ← parts quoted fuel
      pure (.text content :: rest)
    | .spanStart => do
      advance
      let expr ← ternary fuel
      expect isSpanEnd .closeSpan
      let rest ← parts quoted fuel
      pure (.span expr :: rest)
    | .templateEnd => do
      advance
      pure []
    | _ => fail (if quoted then .textSpanOrQuote else .textOrSpan)

def template (quoted : Bool) : (fuel : Nat) → Parser Expr
  | 0 => fail .expression
  | fuel + 1 => do
    expect isTemplateStart .startOfString
    let found ← parts quoted fuel
    pure (templateOf quoted found)

def ternary : (fuel : Nat) → Parser Expr
  | 0 => fail .expression
  | fuel + 1 => do
    let condition ← rescued fuel
    match ← peek with
    | .question => do
      advance
      let thenBranch ← ternary fuel
      expect isColon .ternaryColon
      let elseBranch ← ternary fuel
      pure (.ternary condition thenBranch elseBranch)
    | _ => pure condition

def rescued : (fuel : Nat) → Parser Expr
  | 0 => fail .expression
  | fuel + 1 => do
    let operand ← binary 0 fuel
    match ← peek with
    | .rescue => do
      advance
      let fallback ← rescued fuel
      pure (.rescue operand fallback)
    | _ => pure operand

def binary (level : Nat) : (fuel : Nat) → Parser Expr
  | 0 => fail .expression
  | fuel + 1 =>
    if level < levels then do
      let left ← binary (level + 1) fuel
      chain level left fuel
    else signed fuel

def chain (level : Nat) (left : Expr) : (fuel : Nat) → Parser Expr
  | 0 => fail .expression
  | fuel + 1 => do
    match operatorAt level (← peek) with
    | some op => do
      advance
      let right ← binary (level + 1) fuel
      chain level (.binary op left right) fuel
    | none => pure left

def signed : (fuel : Nat) → Parser Expr
  | 0 => fail .expression
  | fuel + 1 => do
    match signOf? (← peek) with
    | some op => do
      advance
      let operand ← signed fuel
      pure (.unary op operand)
    | none => do
      let operand ← primary fuel
      postfixes operand fuel

def postfixes (operand : Expr) : (fuel : Nat) → Parser Expr
  | 0 => fail .expression
  | fuel + 1 => do
    let point := (← get).current
    match point.kind with
    | .dot => do
      advance
      let name ← methodName point
      expect isOpenParen .methodParen
      let args ← arguments fuel
      postfixes (.method operand name args) fuel
    | .openBracket => do
      advance
      let key ← ternary fuel
      expect isCloseBracket .closeBracket
      postfixes (.index operand key) fuel
    | _ => pure operand

def primary : (fuel : Nat) → Parser Expr
  | 0 => fail .expression
  | fuel + 1 => do
    match ← peek with
    | .integer n => do
      advance
      pure (.integer n)
    | .number x => do
      advance
      pure (.number x)
    | .boolean b => do
      advance
      pure (.boolean b)
    | .templateStart => template true fuel
    | .identifier name => do
      advance
      match ← peek with
      | .openParen => do
        advance
        let args ← arguments fuel
        pure (.call name args)
      | _ => pure (.variable name)
    | .openParen => do
      advance
      let expr ← ternary fuel
      expect isCloseParen .closeParen
      pure expr
    | _ => fail .expression

def arguments : (fuel : Nat) → Parser (List Expr)
  | 0 => fail .expression
  | fuel + 1 => do
    match ← peek with
    | .closeParen => do
      advance
      pure []
    | _ => moreArguments fuel

def moreArguments : (fuel : Nat) → Parser (List Expr)
  | 0 => fail .expression
  | fuel + 1 => do
    let arg ← ternary fuel
    match ← peek with
    | .comma => do
      advance
      let rest ← moreArguments fuel
      pure (arg :: rest)
    | _ => do
      expect isCloseParen .commaOrParen
      pure [arg]

end

/-- The list with an end of input behind it if it lacks one. -/
def closed (tokens : List Token) : List Token :=
  match tokens.getLast? with
  | none => [⟨.endOfInput, 0⟩]
  | some last => if isEndOfInput last.kind then tokens else tokens ++ [⟨.endOfInput, last.offset⟩]

def start (tokens : List Token) : Cursor :=
  match closed tokens with
  | [] => ⟨⟨.endOfInput, 0⟩, [], 0⟩
  | current :: ahead => ⟨current, ahead, 0⟩

/-- No token is met more often than there are procedures between two that consume one. -/
def fuelFor (tokens : List Token) : Nat := 16 * (tokens.length + 2)

def run {α : Type} (parser : Nat → Parser α) (tokens : List Token) : Except ParseError α :=
  match EStateM.run (parser (fuelFor tokens)) (start tokens) with
  | .ok value _ => .ok value
  | .error error _ => .error error

def source (fuel : Nat) : Parser Expr := do
  let expr ← template false fuel
  expect isEndOfInput .endOfInput
  pure expr

end Parser

def parseTokens (tokens : List Token) : Except ParseError Expr := Parser.run Parser.source tokens

def parseExpression (tokens : List Token) : Except ParseError Expr := Parser.run Parser.ternary tokens

end CardExpr
