import CardExpr.Regex.Basic
import CardExpr.Regex.Pattern
import CardExpr.Regex.Property

/-!
What patterns mean. Without the Unicode flag characters beyond ASCII are bytes, and a pattern that
could match a part of such a character means nothing.
-/

namespace CardExpr.Regex

open Text

structure Flags where
  ignoreCase : Bool := false
  multiLine : Bool := false
  dotNewline : Bool := false
  unicode : Bool := true
  anyNewline : Bool := false

/-- Sets a flag. Two of them mean nothing for what a pattern matches. -/
def Flags.change (f : Flags) : FlagChange → Flags
  | (.ignoreCase, on) => { f with ignoreCase := on }
  | (.multiLine, on) => { f with multiLine := on }
  | (.dotNewline, on) => { f with dotNewline := on }
  | (.unicode, on) => { f with unicode := on }
  | (.anyNewline, on) => { f with anyNewline := on }
  | (.swapGreed, _) => f
  | (.extended, _) => f

def Flags.changeAll (f : Flags) (changes : List FlagChange) : Flags := changes.foldl Flags.change f

/-- Characters that differ in case alone, each with the one that stands for them. -/
def foldPairs (unicode : Bool) : List (Nat × Nat) :=
  if unicode then CaseTable.pairs CaseTable.fold
  else (List.range 26).map fun k => (k + 65, k + 97)

/-- Adds to every character those that differ from it in case alone. -/
def foldCase (unicode : Bool) (s : CodeSet) : CodeSet :=
  let pairs := foldPairs unicode
  let folded := s.union (.ofCodes ((pairs.filter (s.contains ·.1)).map (·.2)))
  folded.union (.ofCodes ((pairs.filter (folded.contains ·.2)).map (·.1)))

def Flags.foldCase (f : Flags) (s : CodeSet) : CodeSet :=
  if f.ignoreCase then Regex.foldCase f.unicode s else s

/-- Case is ignored before a class is negated. -/
def Flags.finish (f : Flags) (negated : Bool) (s : CodeSet) : Option CodeSet :=
  let folded := f.foldCase s
  let codes := if negated then folded.complement else folded
  if f.unicode || codes.isAscii then some codes else none

def asciiWord : CodeSet := .ofHex "30-39 41-5A 5F 61-7A"

def Flags.word (f : Flags) : CodeSet := if f.unicode then Property.wordChars else asciiWord

def Shorthand.codes? (f : Flags) (kind : Shorthand) (negated : Bool) : Option CodeSet :=
  let codes := match kind with
    | .digit => if f.unicode then .ofRows Category.decimalNumber else .ofHex "30-39"
    | .blank => if f.unicode then Property.blank else .ofHex "9-D 20"
    | .word => f.word
  if !negated then some codes else if f.unicode then some codes.complement else none

def PropertyQuery.codes? (f : Flags) (query : PropertyQuery) (negated : Bool) : Option CodeSet :=
  if !f.unicode then none
  else match query with
    | .named name => (named? name).bind (f.finish negated)
    | .valued property value differs => (valued? property value).bind (f.finish (negated != differs))

def Literal.code? (f : Flags) (l : Literal) : Option Nat :=
  if f.unicode || decide (l.char.toNat < 128) then some l.char.toNat else none

def SetOp.apply : SetOp → CodeSet → CodeSet → CodeSet
  | .inter => .inter
  | .diff => .diff
  | .symmDiff => .symmDiff

def ClassSet.codes? (f : Flags) : ClassSet → Option CodeSet
  | .empty => some .empty
  | .char l => (l.code? f).map .single
  | .range first last => do
    let a ← first.code? f
    let b ← last.code? f
    some (.range a b)
  | .ascii codes negated => f.finish negated codes
  | .shorthand kind negated => kind.codes? f negated
  | .property query negated => query.codes? f negated
  | .bracketed members negated => (members.codes? f).bind (f.finish negated)
  | .union before last => do
    let s ← before.codes? f
    let t ← last.codes? f
    some (s.union t)
  | .combined op left right => do
    let s ← left.codes? f
    let t ← right.codes? f
    some (op.apply (f.foldCase s) (f.foldCase t))

def Literal.regex? (f : Flags) (l : Literal) : Option Regex :=
  let n := l.char.toNat
  if !f.unicode && l.isByte && decide (127 < n) then none
  else some (.ofCodes (f.foldCase (.single n)))

/-- Any character, as far as it may end no line. -/
def Flags.dot? (f : Flags) : Option Regex :=
  if !f.unicode then none
  else if f.dotNewline then some (.oneOf .full)
  else some (.oneOf (CodeSet.complement (if f.anyNewline then .ofHex "A D" else .ofHex "A")))

def Assertion.look (f : Flags) : Assertion → Look
  | .lineStart => if f.multiLine then if f.anyNewline then .lineStartAny else .lineStart else .textStart
  | .lineEnd => if f.multiLine then if f.anyNewline then .lineEndAny else .lineEnd else .textEnd
  | .textStart => .textStart
  | .textEnd => .textEnd
  | .boundary => .boundary f.word
  | .notBoundary => .notBoundary f.word
  | .wordStart => .wordStart f.word
  | .wordEnd => .wordEnd f.word
  | .wordStartHalf => .wordStartHalf f.word
  | .wordEndHalf => .wordEndHalf f.word

/-- The branches of what a pattern means, and the flags behind it. A group keeps its changes of flags to
itself. -/
def Pattern.branches? : Pattern → Flags → Option (List Regex × Flags)
  | .empty, f => some ([.empty], f)
  | .char l, f => (l.regex? f).map ([·], f)
  | .dot, f => f.dot?.map ([·], f)
  | .assertion a, f => some ([.look (a.look f)], f)
  | .shorthand kind negated, f => (kind.codes? f negated).map ([.ofCodes ·], f)
  | .property query negated, f => (query.codes? f negated).map ([.ofCodes ·], f)
  | .bracketed members negated, f =>
    ((members.codes? f).bind (f.finish negated)).map ([.ofCodes ·], f)
  | .setFlags changes, f => some ([.empty], f.changeAll changes)
  | .repeated body low high, f => do
    let (rs, f) ← body.branches? f
    some ([Regex.repeated (Regex.ofBranches rs) low high], f)
  | .group captures changes body, f => do
    let (rs, _) ← body.branches? (f.changeAll changes)
    some ([if captures then .group (Regex.ofBranches rs) else Regex.ofBranches rs], f)
  | .seq before last, f => do
    let (rs, f) ← before.branches? f
    let (ss, f) ← last.branches? f
    some ([Regex.append (Regex.ofBranches rs) (Regex.ofBranches ss)], f)
  | .alt before last, f => do
    let (rs, f) ← before.branches? f
    let (ss, f) ← last.branches? f
    some (rs ++ ss, f)

def Pattern.regex? (p : Pattern) : Option Regex := (p.branches? {}).map fun r => Regex.ofBranches r.1

end CardExpr.Regex
