import CardExpr.Decimal.Text
import CardExpr.Text.Quoted

/-! The tokens of expression sources. -/

namespace CardExpr

inductive TokenKind where
  | integer (value : Int64)
  | number (value : Float)
  | boolean (value : Bool)
  | identifier (name : String)
  /-- The beginning of the source, or an opening quote inside a span. -/
  | templateStart
  | templateEnd
  /-- Literal text of a template, its escapes resolved. -/
  | text (content : String)
  | spanStart
  | spanEnd
  | plus
  | minus
  | star
  | slash
  | percent
  | bang
  | equal
  | notEqual
  | less
  | lessEqual
  | greater
  | greaterEqual
  | both
  | either
  | question
  | colon
  | rescue
  | dot
  | comma
  | openParen
  | closeParen
  | openBracket
  | closeBracket
  | endOfInput

/-- A token and the number of characters before it. -/
structure Token where
  kind : TokenKind
  offset : Nat

def boolText (b : Bool) : String := if b then "true" else "false"

/-- A token kind as messages name it. -/
def TokenKind.describe : TokenKind → String
  | .integer n => "integer " ++ toString n.toInt
  | .number x => "number " ++ Decimal.Style.plain.text x
  | .boolean b => "'" ++ boolText b ++ "'"
  | .identifier name => "identifier '" ++ name ++ "'"
  | .templateStart => "start of string"
  | .templateEnd => "end of string"
  | .text content => "text " ++ Text.quoted content
  | .spanStart => "'@\x7b'"
  | .spanEnd => "'\x7d'"
  | .plus => "'+'"
  | .minus => "'-'"
  | .star => "'*'"
  | .slash => "'/'"
  | .percent => "'%'"
  | .bang => "'!'"
  | .equal => "'=='"
  | .notEqual => "'!='"
  | .less => "'<'"
  | .lessEqual => "'<='"
  | .greater => "'>'"
  | .greaterEqual => "'>='"
  | .both => "'&&'"
  | .either => "'||'"
  | .question => "'?'"
  | .colon => "':'"
  | .rescue => "'!:'"
  | .dot => "'.'"
  | .comma => "','"
  | .openParen => "'('"
  | .closeParen => "')'"
  | .openBracket => "'['"
  | .closeBracket => "']'"
  | .endOfInput => "end of input"

/-- Why a source has no tokens; offsets count characters. -/
inductive LexError where
  | unterminatedString (offset : Nat)
  | unterminatedSpan (offset : Nat)
  | invalidEscape (char : Char) (offset : Nat)
  | invalidNumber (literal : String) (offset : Nat)
  | unexpectedCharacter (char : Char) (offset : Nat)
  deriving DecidableEq, Repr

def LexError.offset : LexError → Nat
  | .unterminatedString n => n
  | .unterminatedSpan n => n
  | .invalidEscape _ n => n
  | .invalidNumber _ n => n
  | .unexpectedCharacter _ n => n

def offsetText (n : Nat) : String := "offset " ++ toString n

def LexError.message : LexError → String
  | .unterminatedString n => "unterminated string literal starting at " ++ offsetText n
  | .unterminatedSpan n =>
    "unterminated expression: '@\x7b' at " ++ offsetText n ++ " has no closing '\x7d'"
  | .invalidEscape c n =>
    "invalid escape sequence '\\" ++ String.singleton c ++ "' at " ++ offsetText n
  | .invalidNumber literal n => "invalid number literal '" ++ literal ++ "' at " ++ offsetText n
  | .unexpectedCharacter c n =>
    "unexpected character '" ++ String.singleton c ++ "' at " ++ offsetText n

end CardExpr
