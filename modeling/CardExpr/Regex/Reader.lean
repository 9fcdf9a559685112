import CardExpr.Decimal.Reader
import CardExpr.Regex.Meaning
import CardExpr.Regex.Size
import CardExpr.Text.Blank

/-!
Reading regular expressions. A pattern that is not one, that nests too deeply or that would grow too
large is refused.
-/

namespace CardExpr.Regex

open Text

structure ReadState where
  rest : List Char
  /-- Whether blanks and comments do not count. -/
  extended : Bool
  /-- The names that groups have. -/
  names : List (List Char)

abbrev Reader := StateT ReadState Option

namespace Reader

def fail {α : Type} : Reader α := fun _ => none

def rest : Reader (List Char) := return (← get).rest

def setRest (cs : List Char) : Reader Unit := modify fun s => { s with rest := cs }

def isExtended : Reader Bool := return (← get).extended

def setExtended (on : Bool) : Reader Unit := modify fun s => { s with extended := on }

/-- The rest behind blanks and comments; a comment ends with its line. -/
def dropBlanks : (fuel : Nat) → List Char → List Char
  | 0, cs => cs
  | fuel + 1, cs =>
    match cs.dropWhile isBlank with
    | '#' :: more => dropBlanks fuel ((more.dropWhile (· != '\n')).drop 1)
    | other => other

def skipBlanks : Reader Unit := do
  if ← isExtended then
    let cs ← rest
    setRest (dropBlanks (cs.length + 1) cs)

def peek : Reader (Option Char) := return (← rest).head?

def here : Reader Char := do
  match ← peek with
  | some c => pure c
  | none => fail

def bump : Reader Unit := do setRest ((← rest).drop 1)

def bumpBlanks : Reader Unit := do
  bump
  skipBlanks

def take : Reader Char := do
  let c ← here
  bump
  pure c

def ofOption {α : Type} : Option α → Reader α
  | some a => pure a
  | none => fail

/-- What comes behind the next character and the blanks after it, as far as one looks ahead: into a
comment only up to the first character in it that is not blank. -/
def lookBehindBlanks (cs : List Char) : Option Char :=
  let stop := match cs.dropWhile isBlank with
    | '#' :: comment => comment.dropWhile isBlank
    | other => other
  if stop.isEmpty then cs.head? else stop.head?

def peekBehind : Reader (Option Char) := do
  let cs := (← rest).drop 1
  pure (if ← isExtended then lookBehindBlanks cs else cs.head?)

/-- The characters that pass the test, with the blanks between them dropped. -/
def takeWhile (test : Char → Bool) : (fuel : Nat) → Reader (List Char)
  | 0 => fail
  | fuel + 1 => do
    match ← peek with
    | some c =>
      if test c then do
        bumpBlanks
        let more ← takeWhile test fuel
        pure (c :: more)
      else pure []
    | none => pure []

/-- Characters up to a closing brace, behind an opening one; blanks between them are dropped. -/
def braced : Reader (List Char) := do
  bumpBlanks
  let content ← takeWhile (· != '\x7d') ((← rest).length + 1)
  if (← peek).isNone then fail
  else
    bump
    pure content

end Reader

open Reader

inductive Escape where
  | char (l : Literal)
  | shorthand (kind : Shorthand) (negated : Bool)
  | property (query : PropertyQuery) (negated : Bool)
  | assertion (a : Assertion)

def hexDigit? (c : Char) : Option Nat :=
  if '0' ≤ c ∧ c ≤ '9' then some (c.toNat - 48)
  else if 'a' ≤ c ∧ c ≤ 'f' then some (c.toNat - 87)
  else if 'A' ≤ c ∧ c ≤ 'F' then some (c.toNat - 55)
  else none

def charOfHex? (digits : List Char) : Option Char := do
  let values ← digits.mapM hexDigit?
  let n := values.foldl (fun n d => 16 * n + d) 0
  if n.isValidChar && !digits.isEmpty then some (Char.ofNat n) else none

def takeSome : (count : Nat) → Reader (List Char)
  | 0 => pure []
  | count + 1 => do
    let c ← here
    bumpBlanks
    let more ← takeSome count
    pure (c :: more)

/-- A character by its code behind the letter that announces it: exactly `count` hexadecimal digits, or
any number of them in braces. -/
def readHex (count : Nat) : Reader Literal := do
  bumpBlanks
  if (← peek) == some '\x7b' then
    let c ← ofOption (charOfHex? (← braced))
    skipBlanks
    pure ⟨c, false⟩
  else
    let c ← ofOption (charOfHex? (← takeSome count))
    pure ⟨c, count == 2⟩

def splitAt? (sign : List Char) : List Char → Option (List Char × List Char)
  | [] => none
  | c :: cs =>
    if sign.isPrefixOf (c :: cs) then some ([], (c :: cs).drop sign.length)
    else (splitAt? sign cs).map fun (name, value) => (c :: name, value)

def PropertyQuery.ofText (text : List Char) : PropertyQuery :=
  match splitAt? ['!', '='] text with
  | some (property, value) => .valued property value true
  | none =>
    match splitAt? [':'] text <|> splitAt? ['='] text with
    | some (property, value) => .valued property value false
    | none => .named text

def readProperty : Reader PropertyQuery := do
  bumpBlanks
  let c ← here
  if c == '\x7b' then return .ofText (← braced)
  else if c == '\\' then fail
  else
    bumpBlanks
    pure (.named [c])

def isMeta (c : Char) : Bool := "\\.+*?()|[]\x7b\x7d^$#&-~".toList.contains c

/-- ASCII characters that a backslash leaves what they are. -/
def isEscapable (c : Char) : Bool :=
  isMeta c || (decide (c.toNat < 128) && !c.isAlphanum && c != '<' && c != '>')

def wordAssertion? (name : String) : Option Assertion :=
  match name with
  | "start" => some .wordStart
  | "end" => some .wordEnd
  | "start-half" => some .wordStartHalf
  | "end-half" => some .wordEndHalf
  | _ => none

/-- A boundary, or one of the special ones that are named in braces. Braces that do not begin with a
name are a repetition. -/
def readBoundary : Reader Assertion := do
  let start ← rest
  if start.head? != some '\x7b' then pure .boundary
  else
    let isNameChar := fun (c : Char) => c.isAlpha || c == '-'
    bumpBlanks
    if isNameChar (← here) then
      let name ← takeWhile isNameChar (start.length + 1)
      if (← peek) != some '\x7d' then fail
      else
        bump
        ofOption (wordAssertion? (String.ofList name))
    else
      setRest start
      pure .boundary

def readEscape : Reader Escape := do
  let c ← here
  match c with
  | 'x' => return .char (← readHex 2)
  | 'u' => return .char (← readHex 4)
  | 'U' => return .char (← readHex 8)
  | 'p' => return .property (← readProperty) false
  | 'P' => return .property (← readProperty) true
  | _ =>
    bump
    if isEscapable c then pure (.char ⟨c, false⟩)
    else match c with
      | 'd' => pure (.shorthand .digit false)
      | 'D' => pure (.shorthand .digit true)
      | 's' => pure (.shorthand .blank false)
      | 'S' => pure (.shorthand .blank true)
      | 'w' => pure (.shorthand .word false)
      | 'W' => pure (.shorthand .word true)
      | 'a' => pure (.char ⟨'\x07', false⟩)
      | 'f' => pure (.char ⟨'\x0c', false⟩)
      | 't' => pure (.char ⟨'\t', false⟩)
      | 'n' => pure (.char ⟨'\n', false⟩)
      | 'r' => pure (.char ⟨'\r', false⟩)
      | 'v' => pure (.char ⟨'\x0b', false⟩)
      | 'A' => pure (.assertion .textStart)
      | 'z' => pure (.assertion .textEnd)
      | 'b' => return .assertion (← readBoundary)
      | 'B' => pure (.assertion .notBoundary)
      | '<' => pure (.assertion .wordStart)
      | '>' => pure (.assertion .wordEnd)
      | _ => fail

def asciiClass? (name : String) : Option CodeSet :=
  match name with
  | "alnum" => some (.ofHex "30-39 41-5A 61-7A")
  | "alpha" => some (.ofHex "41-5A 61-7A")
  | "ascii" => some (.ofHex "0-7F")
  | "blank" => some (.ofHex "9 20")
  | "cntrl" => some (.ofHex "0-1F 7F")
  | "digit" => some (.ofHex "30-39")
  | "graph" => some (.ofHex "21-7E")
  | "lower" => some (.ofHex "61-7A")
  | "print" => some (.ofHex "20-7E")
  | "punct" => some (.ofHex "21-2F 3A-40 5B-60 7B-7E")
  | "space" => some (.ofHex "9-D 20")
  | "upper" => some (.ofHex "41-5A")
  | "word" => some asciiWord
  | "xdigit" => some (.ofHex "30-39 41-46 61-66")
  | _ => none

def readAsciiClass : Reader (Option ClassSet) := do
  match ← rest with
  | '[' :: ':' :: more =>
    let (negated, more) := match more with
      | '^' :: more => (true, more)
      | more => (false, more)
    let (name, after) := more.span (· != ':')
    match after, asciiClass? (String.ofList name) with
    | ':' :: ']' :: after, some codes => do
      setRest after
      pure (some (.ascii codes negated))
    | _, _ => pure none
  | _ => pure none

def readElement : Reader Escape := do
  match ← take with
  | '\\' => readEscape
  | c => pure (.char ⟨c, false⟩)

def readRange : Reader ClassSet := do
  let first ← readElement
  skipBlanks
  let behind ← peekBehind
  if (← here) != '-' || behind == some ']' || behind == some '-' then
    match first with
    | .char l => pure (.char l)
    | .shorthand kind negated => pure (.shorthand kind negated)
    | .property query negated => pure (.property query negated)
    | .assertion _ => fail
  else do
    bumpBlanks
    match first, ← readElement with
    | .char a, .char b => if a.char ≤ b.char then pure (.range a b) else fail
    | _, _ => fail

def readOpening : Reader (List ClassSet) := do
  let dashes ← takeWhile (· == '-') ((← rest).length + 1)
  let isBracket := (← here) == ']'
  if dashes.isEmpty && isBracket then do
    bumpBlanks
    let _ ← here
    pure [.char ⟨']', false⟩]
  else pure (dashes.map fun c => .char ⟨c, false⟩)

def combine (left : Option (ClassSet × SetOp)) (right : ClassSet) : ClassSet :=
  match left with
  | none => right
  | some (left, op) => .combined op left right

mutual

def readClass : (fuel : Nat) → Reader (ClassSet × Bool)
  | 0 => fail
  | fuel + 1 => do
    skipBlanks
    let negated := (← peek) == some '^'
    if negated then bumpBlanks
    let opening ← readOpening
    let members ← readMembers fuel none opening.reverse
    pure (members, negated)

/-- The members of a class up to its closing bracket. Those read before come last first in `items`, and
`left` is what an operator waits to be applied to. -/
def readMembers : (fuel : Nat) → (left : Option (ClassSet × SetOp)) → (items : List ClassSet) →
    Reader ClassSet
  | 0, _, _ => fail
  | fuel + 1, left, items => do
    skipBlanks
    let before := combine left (.ofItems items.reverse)
    match ← rest with
    | [] => fail
    | '[' :: more => do
      match ← readAsciiClass with
      | some item => readMembers fuel left (item :: items)
      | none => do
        setRest more
        let (members, negated) ← readClass fuel
        readMembers fuel left (.bracketed members negated :: items)
    | ']' :: more => do
      setRest more
      pure before
    | '&' :: '&' :: more => do
      setRest more
      readMembers fuel (some (before, .inter)) []
    | '-' :: '-' :: more => do
      setRest more
      readMembers fuel (some (before, .diff)) []
    | '~' :: '~' :: more => do
      setRest more
      readMembers fuel (some (before, .symmDiff)) []
    | _ => do
      let item ← readRange
      readMembers fuel left (item :: items)

end

def readCount : Reader Nat := do
  setRest ((← rest).dropWhile isBlank)
  let digits ← takeWhile Char.isDigit ((← rest).length + 1)
  let _ ← takeWhile isBlank ((← rest).length + 1)
  if digits.isEmpty then fail
  else
    let n := Decimal.natOfDigits digits
    if n < UInt32.size then pure n else fail

def readBounds : Reader (Nat × Option Nat) := do
  bumpBlanks
  let low ← readCount
  let high ← match ← here with
    | ',' => do
      bumpBlanks
      if (← here) == '\x7d' then pure none
      else do
        let n ← readCount
        pure (some n)
    | _ => pure (some low)
  if (← here) != '\x7d' then fail
  else
    bumpBlanks
    match high with
    | some n => if low ≤ n then pure (low, high) else fail
    | none => pure (low, high)

def Flag.ofChar? : Char → Option Flag
  | 'i' => some .ignoreCase
  | 'm' => some .multiLine
  | 's' => some .dotNewline
  | 'x' => some .extended
  | 'u' => some .unicode
  | 'R' => some .anyNewline
  | 'U' => some .swapGreed
  | _ => none

/-- Changes of flags up to the colon or parenthesis that ends them: `on` tells that no sign for switching
off has come yet, and the last change of those read before comes first. Each flag occurs once, and the
sign once, with a flag behind it. -/
def readFlags (on : Bool) (last : Option Char) (before : List FlagChange) :
    List Char → Option (List FlagChange × Bool × List Char)
  | [] => none
  | c :: cs =>
    if c == ':' || c == ')' then
      if last == some '-' || (c == ')' && last.isNone) then none
      else some (before.reverse, c == ':', cs)
    else if c == '-' then if on then readFlags false (some c) before cs else none
    else do
      let flag ← Flag.ofChar? c
      if before.any (·.1 == flag) then none else readFlags on (some c) ((flag, on) :: before) cs

/-- Changes of flags bear on the rest of the pattern from where they stand. -/
def noteExtended (changes : List FlagChange) : Reader Unit := do
  for (flag, on) in changes do
    if flag == .extended then setExtended on

def isNameChar (first : Bool) (c : Char) : Bool :=
  c == '_' || Property.alphabetic.has c ||
    [Latest.letter, Latest.otherAlphabetic].any (Category.contains · c) ||
    (!first && (c == '.' || c == '[' || c == ']' || isNumeral c))

/-- The name of a group up to its closing angle; no two groups share one. -/
def readGroupName : Reader Unit := do
  let (name, after) := (← rest).span (· != '>')
  let s ← get
  match name with
  | [] => fail
  | first :: others =>
    if after.isEmpty || !isNameChar true first || !others.all (isNameChar false) ||
        s.names.contains name then fail
    else set { s with rest := after.drop 1, names := name :: s.names }

mutual

/-- Branches up to the end of the group or pattern; the last one of those read before comes first. -/
def readBranches : (fuel : Nat) → (before : List Pattern) → Reader Pattern
  | 0, _ => fail
  | fuel + 1, before => do
    let pieces ← readPieces fuel []
    let branches := .ofPieces pieces.reverse :: before
    match ← peek with
    | some '|' => do
      bump
      readBranches fuel branches
    | _ => pure (.ofBranches branches.reverse)

def readPieces : (fuel : Nat) → (before : List Pattern) → Reader (List Pattern)
  | 0, _ => fail
  | fuel + 1, before => do
    skipBlanks
    match ← peek with
    | none => pure before
    | some '|' => pure before
    | some ')' => pure before
    | some '?' => do
      bump
      readRepeated fuel before 0 (some 1)
    | some '*' => do
      bump
      readRepeated fuel before 0 none
    | some '+' => do
      bump
      readRepeated fuel before 1 none
    | some '\x7b' => do
      let (low, high) ← readBounds
      readRepeated fuel before low high
    | some _ => do
      let piece ← readPiece fuel
      readPieces fuel (piece :: before)

/-- Repeats the last piece, unless that is a change of flags. A question mark behind that only prefers
fewer repetitions. -/
def readRepeated : (fuel : Nat) → List Pattern → (low : Nat) → (high : Option Nat) →
    Reader (List Pattern)
  | 0, _, _, _ => fail
  | fuel + 1, before, low, high => do
    match before with
    | [] => fail
    | .setFlags _ :: _ => fail
    | piece :: before => do
      if (← peek) == some '?' then bump
      readPieces fuel (.repeated piece low high :: before)

def readPiece : (fuel : Nat) → Reader Pattern
  | 0 => fail
  | fuel + 1 => do
    match ← take with
    | '(' => do
      skipBlanks
      match ← rest with
      | '?' :: '=' :: _ => fail
      | '?' :: '!' :: _ => fail
      | '?' :: '<' :: '=' :: _ => fail
      | '?' :: '<' :: '!' :: _ => fail
      | '?' :: 'P' :: '<' :: more => do
        setRest more
        readGroupName
        readGroup fuel true []
      | '?' :: '<' :: more => do
        setRest more
        readGroupName
        readGroup fuel true []
      | '?' :: more => do
        let (changes, grouped, after) ← ofOption (readFlags true none [] more)
        setRest after
        if grouped then readGroup fuel false changes
        else do
          noteExtended changes
          pure (.setFlags changes)
      | _ => readGroup fuel true []
    | '[' => do
      let (members, negated) ← readClass fuel
      pure (.bracketed members negated)
    | '.' => pure .dot
    | '^' => pure (.assertion .lineStart)
    | '$' => pure (.assertion .lineEnd)
    | '\\' => do
      match ← readEscape with
      | .char l => pure (.char l)
      | .shorthand kind negated => pure (.shorthand kind negated)
      | .property query negated => pure (.property query negated)
      | .assertion a => pure (.assertion a)
    | c => pure (.char ⟨c, false⟩)

/-- A group up to its closing parenthesis, behind which blanks count as they did before it. -/
def readGroup : (fuel : Nat) → (captures : Bool) → (changes : List FlagChange) → Reader Pattern
  | 0, _, _ => fail
  | fuel + 1, captures, changes => do
    let extended ← isExtended
    noteExtended changes
    let body ← readBranches fuel []
    match ← rest with
    | ')' :: more => do
      setRest more
      setExtended extended
      pure (.group captures changes body)
    | _ => fail

end

def Pattern.ofText? (text : String) : Option Pattern := do
  let cs := text.toList
  let (p, s) ← (readBranches (8 * cs.length + 8) []).run ⟨cs, false, []⟩
  if s.rest.isEmpty && decide (p.depth false false ≤ maxDepth) then some p else none

def read? (pattern : String) : Option Regex := do
  let p ← Pattern.ofText? pattern
  let r ← p.regex?
  if r.fits then some r else none

def escape (text : String) : String :=
  String.ofList (text.toList.flatMap fun c => if isMeta c then ['\\', c] else [c])

end CardExpr.Regex
