import CardExpr.Text.CodeSet

/-! Patterns: the parts that the text of a regular expression spells, and how deeply they nest. -/

namespace CardExpr.Regex

open Text

/-- Settings that a pattern can change on its way. -/
inductive Flag where
  | ignoreCase
  | multiLine
  | dotNewline
  | swapGreed
  | unicode
  | anyNewline
  /-- Blanks and comments in the pattern do not count. -/
  | extended
  deriving BEq

abbrev FlagChange := Flag × Bool

/-- A character that stands for itself. Two hexadecimal digits spell a byte where characters are bytes. -/
structure Literal where
  char : Char
  isByte : Bool := false

inductive Shorthand where
  | digit
  | blank
  | word

inductive PropertyQuery where
  | named (name : List Char)
  | valued (property value : List Char) (differs : Bool)

inductive SetOp where
  | inter
  | diff
  | symmDiff

inductive ClassSet where
  | empty
  | char (l : Literal)
  | range (first last : Literal)
  | ascii (codes : CodeSet) (negated : Bool)
  | shorthand (kind : Shorthand) (negated : Bool)
  | property (query : PropertyQuery) (negated : Bool)
  | bracketed (members : ClassSet) (negated : Bool)
  | union (before last : ClassSet)
  | combined (op : SetOp) (left right : ClassSet)

inductive Assertion where
  | lineStart
  | lineEnd
  | textStart
  | textEnd
  | boundary
  | notBoundary
  | wordStart
  | wordEnd
  | wordStartHalf
  | wordEndHalf

inductive Pattern where
  | empty
  | char (l : Literal)
  | dot
  | assertion (a : Assertion)
  | shorthand (kind : Shorthand) (negated : Bool)
  | property (query : PropertyQuery) (negated : Bool)
  | bracketed (members : ClassSet) (negated : Bool)
  | setFlags (changes : List FlagChange)
  | repeated (body : Pattern) (low : Nat) (high : Option Nat)
  | group (captures : Bool) (changes : List FlagChange) (body : Pattern)
  | seq (before last : Pattern)
  | alt (before last : Pattern)

def ClassSet.ofItems : List ClassSet → ClassSet
  | [] => .empty
  | item :: items => items.foldl .union item

def Pattern.ofPieces : List Pattern → Pattern
  | [] => .empty
  | piece :: pieces => pieces.foldl .seq piece

def Pattern.ofBranches : List Pattern → Pattern
  | [] => .empty
  | branch :: others => others.foldl .alt branch

/-- How deeply a class nests. The members of a union count as one level; `inUnion` tells that the level
has been counted. -/
def ClassSet.depth (inUnion : Bool) : ClassSet → Nat
  | .bracketed members _ => members.depth false + 1
  | .union before last =>
    max (before.depth true) (last.depth false) + if inUnion then 0 else 1
  | .combined _ left right => max (left.depth false) (right.depth false) + 1
  | _ => 0

/-- How deeply a pattern nests. The pieces of a branch count as one level, and so do the branches of an
alternation; `inSeq` and `inAlt` tell that the level has been counted. -/
def Pattern.depth (inSeq inAlt : Bool) : Pattern → Nat
  | .bracketed members _ => members.depth false + 1
  | .repeated body _ _ => body.depth false false + 1
  | .group _ _ body => body.depth false false + 1
  | .seq before last =>
    max (before.depth true false) (last.depth false false) + if inSeq then 0 else 1
  | .alt before last =>
    max (before.depth false true) (last.depth false false) + if inAlt then 0 else 1
  | _ => 0

def Pattern.maxDepth : Nat := 250

end CardExpr.Regex
