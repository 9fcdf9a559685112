import CardExpr.Expr.Parser

/-! The grammar of sources: which token kinds, without the end of input, are the phrase of which tree. -/

namespace CardExpr.Grammar

/-- The left-associative operators, the loosest on level 0. -/
inductive Operator : (level : Nat) → TokenKind → BinaryOp → Prop where
  | or : Operator 0 .either .or
  | and : Operator 1 .both .and
  | equal : Operator 2 .equal .equal
  | notEqual : Operator 2 .notEqual .notEqual
  | less : Operator 3 .less .less
  | lessEqual : Operator 3 .lessEqual .lessEqual
  | greater : Operator 3 .greater .greater
  | greaterEqual : Operator 3 .greaterEqual .greaterEqual
  | add : Operator 4 .plus .add
  | subtract : Operator 4 .minus .subtract
  | multiply : Operator 5 .star .multiply
  | divide : Operator 5 .slash .divide
  | modulo : Operator 5 .percent .modulo

inductive Sign : TokenKind → UnaryOp → Prop where
  | not : Sign .bang .not
  | negate : Sign .minus .negate
  | plus : Sign .plus .plus

/-- The tree of a template with these parts. -/
inductive Folds (quoted : Bool) : List TemplatePart → Expr → Prop where
  | empty : Folds quoted [] (.string "")
  | text (content : String) : Folds quoted [.text content] (.string content)
  | span (e : Expr) (unquoted : quoted = false) : Folds quoted [.span e] e
  | spanInQuotes (e : Expr) (inQuotes : quoted = true) : Folds quoted [.span e] (.template [.span e])
  | several (first second : TemplatePart) (rest : List TemplatePart) :
      Folds quoted (first :: second :: rest) (.template (first :: second :: rest))

/-- A kind of phrase with what it stands for. -/
inductive Phrase where
  | template (quoted : Bool) (e : Expr)
  | parts (found : List TemplatePart)
  | ternary (e : Expr)
  | rescued (e : Expr)
  /-- Operators of the level and all tighter ones. -/
  | binary (level : Nat) (e : Expr)
  | signed (e : Expr)
  /-- An operand with methods and indices behind it. -/
  | operand (e : Expr)
  | primary (e : Expr)
  | arguments (args : List Expr)
  /-- Arguments, of which there is one at least. -/
  | someArguments (args : List Expr)

inductive Derives : List TokenKind → Phrase → Prop where
  | template {quoted : Bool} {ks : List TokenKind} {found : List TemplatePart} {e : Expr}
      (inner : Derives ks (.parts found)) (folds : Folds quoted found e) :
      Derives (.templateStart :: ks ++ [.templateEnd]) (.template quoted e)
  | noParts : Derives [] (.parts [])
  | text {ks : List TokenKind} {found : List TemplatePart} (content : String)
      (rest : Derives ks (.parts found)) : Derives (.text content :: ks) (.parts (.text content :: found))
  | span {ks more : List TokenKind} {e : Expr} {found : List TemplatePart}
      (inner : Derives ks (.ternary e)) (rest : Derives more (.parts found)) :
      Derives (.spanStart :: ks ++ .spanEnd :: more) (.parts (.span e :: found))
  | unconditional {ks : List TokenKind} {e : Expr} (inner : Derives ks (.rescued e)) :
      Derives ks (.ternary e)
  | choice {ks ls ms : List TokenKind} {c a b : Expr} (condition : Derives ks (.rescued c))
      (thenBranch : Derives ls (.ternary a)) (elseBranch : Derives ms (.ternary b)) :
      Derives (ks ++ .question :: ls ++ .colon :: ms) (.ternary (.ternary c a b))
  | unrescued {ks : List TokenKind} {e : Expr} (inner : Derives ks (.binary 0 e)) :
      Derives ks (.rescued e)
  | rescue {ks ls : List TokenKind} {a b : Expr} (operand : Derives ks (.binary 0 a))
      (fallback : Derives ls (.rescued b)) : Derives (ks ++ .rescue :: ls) (.rescued (.rescue a b))
  | tighter {level : Nat} {ks : List TokenKind} {e : Expr} (inside : level < 6)
      (inner : Derives ks (.binary (level + 1) e)) : Derives ks (.binary level e)
  | operation {level : Nat} {k : TokenKind} {op : BinaryOp} {ks ls : List TokenKind} {a b : Expr}
      (left : Derives ks (.binary level a)) (operator : Operator level k op)
      (right : Derives ls (.binary (level + 1) b)) :
      Derives (ks ++ k :: ls) (.binary level (.binary op a b))
  | tightest {ks : List TokenKind} {e : Expr} (inner : Derives ks (.signed e)) :
      Derives ks (.binary 6 e)
  | sign {k : TokenKind} {op : UnaryOp} {ks : List TokenKind} {e : Expr} (sign : Sign k op)
      (inner : Derives ks (.signed e)) : Derives (k :: ks) (.signed (.unary op e))
  | unsigned {ks : List TokenKind} {e : Expr} (inner : Derives ks (.operand e)) : Derives ks (.signed e)
  | bare {ks : List TokenKind} {e : Expr} (inner : Derives ks (.primary e)) : Derives ks (.operand e)
  | method {ks ls : List TokenKind} {e : Expr} {args : List Expr} (name : String)
      (receiver : Derives ks (.operand e)) (inner : Derives ls (.arguments args)) :
      Derives (ks ++ .dot :: .identifier name :: .openParen :: ls ++ [.closeParen])
        (.operand (.method e name args))
  | index {ks ls : List TokenKind} {e key : Expr} (target : Derives ks (.operand e))
      (inner : Derives ls (.ternary key)) :
      Derives (ks ++ .openBracket :: ls ++ [.closeBracket]) (.operand (.index e key))
  | integer (n : Int64) : Derives [.integer n] (.primary (.integer n))
  | number (x : Float) : Derives [.number x] (.primary (.number x))
  | boolean (b : Bool) : Derives [.boolean b] (.primary (.boolean b))
  | quoted {ks : List TokenKind} {e : Expr} (inner : Derives ks (.template true e)) :
      Derives ks (.primary e)
  | «variable» (name : String) : Derives [.identifier name] (.primary (.variable name))
  | call {ks : List TokenKind} {args : List Expr} (name : String) (inner : Derives ks (.arguments args)) :
      Derives (.identifier name :: .openParen :: ks ++ [.closeParen]) (.primary (.call name args))
  | parenthesized {ks : List TokenKind} {e : Expr} (inner : Derives ks (.ternary e)) :
      Derives (.openParen :: ks ++ [.closeParen]) (.primary e)
  | noArguments : Derives [] (.arguments [])
  | «arguments» {ks : List TokenKind} {args : List Expr} (inner : Derives ks (.someArguments args)) :
      Derives ks (.arguments args)
  | lastArgument {ks : List TokenKind} {e : Expr} (inner : Derives ks (.ternary e)) :
      Derives ks (.someArguments [e])
  | argument {ks ls : List TokenKind} {e : Expr} {args : List Expr} (inner : Derives ks (.ternary e))
      (rest : Derives ls (.someArguments args)) :
      Derives (ks ++ .comma :: ls) (.someArguments (e :: args))

theorem operatorAt_eq_some (level : Nat) (k : TokenKind) (op : BinaryOp) :
    Parser.operatorAt level k = some op ↔ Operator level k op := by
  constructor
  · intro found
    unfold Parser.operatorAt at found
    split at found <;> cases found <;> constructor
  · intro operator
    cases operator <;> rfl

theorem signOf?_eq_some (k : TokenKind) (op : UnaryOp) : Parser.signOf? k = some op ↔ Sign k op := by
  constructor
  · intro found
    unfold Parser.signOf? at found
    split at found <;> cases found <;> constructor
  · intro sign
    cases sign <;> rfl

theorem Operator.inside {level : Nat} {k : TokenKind} {op : BinaryOp} (operator : Operator level k op) :
    Parser.isEndOfInput k = false ∧ level < 6 := by
  cases operator <;> exact ⟨rfl, by decide⟩

theorem Sign.inside {k : TokenKind} {op : UnaryOp} (sign : Sign k op) :
    Parser.isEndOfInput k = false := by
  cases sign <;> rfl

theorem templateOf_eq (quoted : Bool) (found : List TemplatePart) (e : Expr) :
    Parser.templateOf quoted found = e ↔ Folds quoted found e := by
  constructor
  · rintro rfl
    unfold Parser.templateOf
    split
    · exact .empty
    · exact .text _
    · cases quoted with
      | true => exact .spanInQuotes _ rfl
      | false => exact .span _ rfl
    next noText noSpan notEmpty =>
      cases found with
      | nil => exact absurd rfl noText
      | cons first rest =>
          cases rest with
          | cons second rest => exact .several first second rest
          | nil =>
              cases first with
              | text content => exact absurd rfl (noSpan content)
              | span e => exact absurd rfl (notEmpty e)
  · intro folds
    cases folds with
    | empty => rfl
    | text content => rfl
    | span e unquoted => simp [Parser.templateOf, unquoted]
    | spanInQuotes e inQuotes => simp [Parser.templateOf, inQuotes]
    | several first second rest => cases first <;> cases rest <;> rfl

theorem Derives.binary_of_signed {ks : List TokenKind} {e : Expr} {level : Nat}
    (derives : Derives ks (.signed e)) (bounded : level ≤ 6) : Derives ks (.binary level e) := by
  obtain ⟨tighter, rest⟩ := Nat.exists_eq_add_of_le bounded
  induction tighter generalizing level with
  | zero =>
      obtain rfl : level = 6 := rest.symm
      exact .tightest derives
  | succ tighter ih => exact .tighter (by omega) (ih (by omega) (by omega))

theorem Derives.ternary_of_primary {ks : List TokenKind} {e : Expr} (derives : Derives ks (.primary e)) :
    Derives ks (.ternary e) := by
  have signed : Derives ks (.signed e) := .unsigned (.bare derives)
  exact .unconditional (.unrescued (signed.binary_of_signed (Nat.zero_le 6)))

end CardExpr.Grammar
