import CardExpr.Token.Lexer

/-! The spelling of properly nested tokens as a source. -/

namespace CardExpr.Spelling

inductive Frame where
  | quote
  | span
  deriving DecidableEq, Repr

/-- Letters, digits and underscores, of which the first is no digit, and neither `true` nor `false`. -/
structure IsName (name : String) : Prop where
  start : ∃ c cs, name.toList = c :: cs ∧ (c.isAlpha = true ∨ c = '_')
  chars : ∀ c ∈ name.toList, c.isAlphanum = true ∨ c = '_'
  not_true : name ≠ "true"
  not_false : name ≠ "false"

def isSymbol : TokenKind → Bool
  | .integer _ => false
  | .number _ => false
  | .boolean _ => false
  | .identifier _ => false
  | .templateStart => false
  | .templateEnd => false
  | .text _ => false
  | .spanStart => false
  | .spanEnd => false
  | .endOfInput => false
  | _ => true

inductive Plain : TokenKind → Prop where
  | integer (n : Int64) (nonneg : 0 ≤ n.toInt) : Plain (.integer n)
  | boolean (b : Bool) : Plain (.boolean b)
  | identifier (name : String) (isName : IsName name) : Plain (.identifier name)
  | symbol (k : TokenKind) (isSymbol : isSymbol k = true) : Plain k

/-- The kinds, up to the end of the source, close what is open and nest. -/
inductive Nested : (opened : List Frame) → List TokenKind → Prop where
  | done : Nested [] [.templateEnd]
  | text {opened : List Frame} {ks : List TokenKind} (content : String)
      (outside : opened.head? ≠ some .span) (present : content ≠ "")
      (alone : ∀ other, ks.head? ≠ some (.text other)) (rest : Nested opened ks) :
      Nested opened (.text content :: ks)
  | spanStart {opened : List Frame} {ks : List TokenKind} (outside : opened.head? ≠ some .span)
      (rest : Nested (.span :: opened) ks) : Nested opened (.spanStart :: ks)
  | spanEnd {opened : List Frame} {ks : List TokenKind} (rest : Nested opened ks) :
      Nested (.span :: opened) (.spanEnd :: ks)
  | quote {opened : List Frame} {ks : List TokenKind} (rest : Nested (.quote :: .span :: opened) ks) :
      Nested (.span :: opened) (.templateStart :: ks)
  | unquote {opened : List Frame} {ks : List TokenKind} (rest : Nested opened ks) :
      Nested (.quote :: opened) (.templateEnd :: ks)
  | plain {opened : List Frame} {ks : List TokenKind} (k : TokenKind) (isPlain : Plain k)
      (rest : Nested (.span :: opened) ks) : Nested (.span :: opened) (k :: ks)

def ProperlyNested (ks : List TokenKind) : Prop := ∃ body, ks = .templateStart :: body ∧ Nested [] body

def after : List Frame → TokenKind → List Frame
  | opened, .spanStart => .span :: opened
  | .span :: outer, .spanEnd => outer
  | .span :: outer, .templateStart => .quote :: .span :: outer
  | .quote :: outer, .templateEnd => outer
  | opened, _ => opened

/-- A backslash before every backslash, before an at sign that a brace follows, and in quotes before
every quote. -/
def escape (quoted : Bool) : List Char → List Char
  | [] => []
  | c :: cs =>
    if c = '\\' ∨ (c = '@' ∧ cs.head? = some '\x7b') ∨ (quoted = true ∧ c = '\'') then
      '\\' :: c :: escape quoted cs
    else c :: escape quoted cs

/-- A token as it is spelled where these constructs are open. The source itself has no quotes. -/
def word (opened : List Frame) : TokenKind → List Char
  | .text content => escape (opened.head? == some .quote) content.toList
  | .spanStart => ['@', '\x7b']
  | .spanEnd => ['\x7d']
  | .templateStart => if opened.isEmpty then [] else ['\'']
  | .templateEnd => if opened.isEmpty then [] else ['\'']
  | .integer n => (toString n.toInt).toList
  | .boolean b => (boolText b).toList
  | .identifier name => name.toList
  | .plus => ['+']
  | .minus => ['-']
  | .star => ['*']
  | .slash => ['/']
  | .percent => ['%']
  | .bang => ['!']
  | .equal => ['=', '=']
  | .notEqual => ['!', '=']
  | .less => ['<']
  | .lessEqual => ['<', '=']
  | .greater => ['>']
  | .greaterEqual => ['>', '=']
  | .both => ['&', '&']
  | .either => ['|', '|']
  | .question => ['?']
  | .colon => [':']
  | .rescue => ['!', ':']
  | .dot => ['.']
  | .comma => [',']
  | .openParen => ['(']
  | .closeParen => [')']
  | .openBracket => ['[']
  | .closeBracket => [']']
  | .number _ => []
  | .endOfInput => []

/-- What stands between two tokens: a space inside a span, and `edge` at both ends of one. -/
def gap (edge : List Char) : (opened : List Frame) → (previous next : TokenKind) → List Char
  | .span :: _, .spanStart, _ => edge
  | .span :: _, _, .spanEnd => edge
  | .span :: _, _, _ => [' ']
  | _, _, _ => []

def spellFrom (edge : List Char) : (opened : List Frame) → (previous : TokenKind) → List TokenKind →
    List Char
  | _, _, [] => []
  | opened, previous, k :: ks =>
    gap edge opened previous k ++ (word opened k ++ spellFrom edge (after opened k) k ks)

def spell (edge : List Char) (ks : List TokenKind) : String :=
  String.ofList (spellFrom edge [] .templateStart ks)

end CardExpr.Spelling
