import CardExpr.Token
import CardExpr.Decimal.Reader
import CardExpr.Text.Blank

/-!
Cutting a source into tokens. A source is literal text with spans; inside a span a quoted template
holds text with spans of its own.
-/

namespace CardExpr.Lexer

/-- A construct that is still open, with the offset where it began. An empty stack of these is the
literal text of the source itself. -/
inductive Opened where
  | quote (start : Nat)
  | span (start : Nat)
  deriving DecidableEq, Repr

/-- What one step reads: a token, the constructs open after it, and the characters left. -/
structure Step where
  token : Token
  opened : List Opened
  offset : Nat
  rest : List Char

def isNameStart (c : Char) : Bool :=
  decide ('a' ≤ c ∧ c ≤ 'z') || decide ('A' ≤ c ∧ c ≤ 'Z') || c = '_'

def isNameChar (c : Char) : Bool := isNameStart c || Decimal.isDigit c

/-- Literal text up to the next span, the closing quote or the end, with the characters left. In the
source itself a backslash escapes another one and an at sign and is text before anything else; in
quotes it must begin an escape. -/
def readText (quote : Option Nat) (offset : Nat) :
    List Char → Except LexError (List Char × Nat × List Char)
  | [] => .ok ([], offset, [])
  | c :: cs =>
    if c = '@' ∧ cs.head? = some '\x7b' then .ok ([], offset, c :: cs)
    else if c = '\'' ∧ quote.isSome then .ok ([], offset, c :: cs)
    else if c ≠ '\\' then
      (readText quote (offset + 1) cs).map fun (text, rest) => (c :: text, rest)
    else match quote, cs with
      | _, '\\' :: r => (readText quote (offset + 2) r).map fun (t, rest) => ('\\' :: t, rest)
      | _, '@' :: r => (readText quote (offset + 2) r).map fun (t, rest) => ('@' :: t, rest)
      | some _, '\'' :: r => (readText quote (offset + 2) r).map fun (t, rest) => ('\'' :: t, rest)
      | some _, '"' :: r => (readText quote (offset + 2) r).map fun (t, rest) => ('"' :: t, rest)
      | some _, 'n' :: r => (readText quote (offset + 2) r).map fun (t, rest) => ('\n' :: t, rest)
      | some _, 't' :: r => (readText quote (offset + 2) r).map fun (t, rest) => ('\t' :: t, rest)
      | some _, 'r' :: r => (readText quote (offset + 2) r).map fun (t, rest) => ('\r' :: t, rest)
      | some _, other :: _ => .error (.invalidEscape other offset)
      | some start, [] => .error (.unterminatedString start)
      | none, r => (readText quote (offset + 1) r).map fun (t, rest) => ('\\' :: t, rest)

/-- Inside a template: text, the start of a span, or the end of the template. The source itself ends
only where the characters do. -/
def templateStep (quote : Option Nat) (opened : List Opened) (offset : Nat) (cs : List Char) :
    Except LexError Step :=
  match cs with
  | '@' :: '\x7b' :: rest =>
    .ok ⟨⟨.spanStart, offset⟩, .span offset :: opened, offset + 2, rest⟩
  | _ => do
    let (text, next, rest) ← readText quote offset cs
    pure ⟨⟨.text (String.ofList text), offset⟩, opened, next, rest⟩

/-- A number literal in parts: its text with a small `e`, and what is still wrong with it. -/
structure Literal where
  text : List Char
  fractional : Bool
  malformed : Bool

def readFraction (cs : List Char) : List Char × List Char :=
  match cs with
  | '.' :: d :: rest =>
    if Decimal.isDigit d then
      let (digits, rest) := (d :: rest).span Decimal.isDigit
      ('.' :: digits, rest)
    else ([], cs)
  | _ => ([], cs)

def readExponent (cs : List Char) : List Char × Bool × List Char :=
  match cs with
  | c :: rest =>
    if c = 'e' ∨ c = 'E' then
      let (sign, rest) := match rest with
        | '+' :: r => (['+'], r)
        | '-' :: r => (['-'], r)
        | r => ([], r)
      let (digits, rest) := rest.span Decimal.isDigit
      ('e' :: sign ++ digits, digits.isEmpty, rest)
    else ([], false, cs)
  | [] => ([], false, [])

/-- A literal runs on through letters that are glued to it, which make it malformed. -/
def readLiteral (cs : List Char) : Literal × List Char :=
  let (whole, rest) := cs.span Decimal.isDigit
  let (fraction, rest) := readFraction rest
  let (exponent, noDigits, rest) := readExponent rest
  let (glued, rest) := rest.span isNameChar
  (⟨whole ++ fraction ++ exponent ++ glued, !(fraction ++ exponent).isEmpty,
    noDigits || !glued.isEmpty⟩, rest)

def Literal.kind? (literal : Literal) : Option TokenKind :=
  if literal.malformed then none
  else if literal.fractional then (Decimal.readFloat literal.text).map .number
  else (Decimal.readInteger literal.text).map .integer

def nameKind (name : List Char) : TokenKind :=
  let word := String.ofList name
  if word = "true" then .boolean true
  else if word = "false" then .boolean false
  else .identifier word

def operator? : List Char → Option (TokenKind × Nat × List Char)
  | '!' :: '=' :: rest => some (.notEqual, 2, rest)
  | '!' :: ':' :: rest => some (.rescue, 2, rest)
  | '!' :: rest => some (.bang, 1, rest)
  | '<' :: '=' :: rest => some (.lessEqual, 2, rest)
  | '<' :: rest => some (.less, 1, rest)
  | '>' :: '=' :: rest => some (.greaterEqual, 2, rest)
  | '>' :: rest => some (.greater, 1, rest)
  | '=' :: '=' :: rest => some (.equal, 2, rest)
  | '&' :: '&' :: rest => some (.both, 2, rest)
  | '|' :: '|' :: rest => some (.either, 2, rest)
  | '+' :: rest => some (.plus, 1, rest)
  | '-' :: rest => some (.minus, 1, rest)
  | '*' :: rest => some (.star, 1, rest)
  | '/' :: rest => some (.slash, 1, rest)
  | '%' :: rest => some (.percent, 1, rest)
  | '?' :: rest => some (.question, 1, rest)
  | ':' :: rest => some (.colon, 1, rest)
  | '.' :: rest => some (.dot, 1, rest)
  | ',' :: rest => some (.comma, 1, rest)
  | '(' :: rest => some (.openParen, 1, rest)
  | ')' :: rest => some (.closeParen, 1, rest)
  | '[' :: rest => some (.openBracket, 1, rest)
  | ']' :: rest => some (.closeBracket, 1, rest)
  | _ => none

/-- Inside a span, behind any blanks: `start` is where the span began, `outer` what is open around
it. -/
def spanStep (start : Nat) (outer : List Opened) (offset : Nat) (cs : List Char) :
    Except LexError Step :=
  match cs with
  | [] => .error (.unterminatedSpan start)
  | c :: rest =>
    if c = '\x7d' then .ok ⟨⟨.spanEnd, offset⟩, outer, offset + 1, rest⟩
    else if c = '\'' then
      .ok ⟨⟨.templateStart, offset⟩, .quote offset :: .span start :: outer, offset + 1, rest⟩
    else match operator? cs with
      | some (kind, width, rest) => .ok ⟨⟨kind, offset⟩, .span start :: outer, offset + width, rest⟩
      | none =>
        if Decimal.isDigit c then
          let (literal, rest) := readLiteral cs
          match literal.kind? with
          | some kind =>
            .ok ⟨⟨kind, offset⟩, .span start :: outer, offset + (cs.length - rest.length), rest⟩
          | none => .error (.invalidNumber (String.ofList literal.text) offset)
        else if isNameStart c then
          let (name, rest) := cs.span isNameChar
          .ok ⟨⟨nameKind name, offset⟩, .span start :: outer, offset + name.length, rest⟩
        else .error (.unexpectedCharacter c offset)

def step (opened : List Opened) (offset : Nat) (cs : List Char) : Except LexError (Option Step) :=
  match opened, cs with
  | [], [] => .ok none
  | [], _ => (templateStep none [] offset cs).map some
  | .quote start :: _, [] => .error (.unterminatedString start)
  | .quote start :: outer, c :: rest =>
    if c = '\'' then .ok (some ⟨⟨.templateEnd, offset⟩, outer, offset + 1, rest⟩)
    else (templateStep (some start) opened offset cs).map some
  | .span start :: outer, _ =>
    let rest := Text.trimStart cs
    (spanStep start outer (offset + (cs.length - rest.length)) rest).map some

/-- The tokens behind the opening one. Every step but the last consumes a character, so one more
step than there are characters is enough. -/
def run : (steps : Nat) → List Opened → Nat → List Char → Except LexError (List Token)
  | 0, _, offset, _ => .ok [⟨.templateEnd, offset⟩, ⟨.endOfInput, offset⟩]
  | steps + 1, opened, offset, cs => do
    match ← step opened offset cs with
    | none => pure [⟨.templateEnd, offset⟩, ⟨.endOfInput, offset⟩]
    | some s =>
      let more ← run steps s.opened s.offset s.rest
      pure (s.token :: more)

end Lexer

/-- The tokens of a source: one template, and the end of input behind it. -/
def tokenize (source : String) : Except LexError (List Token) := do
  let cs := source.toList
  let more ← Lexer.run (cs.length + 1) [] 0 cs
  pure (⟨.templateStart, 0⟩ :: more)

end CardExpr
