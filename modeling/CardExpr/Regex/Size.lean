import CardExpr.Regex.Basic
import CardExpr.Text.Utf8
import CardExpr.Text.Utf8Range

/-!
How much memory the automaton of a regular expression takes. It reads bytes, either forward or
backward, and both automata have to fit.
-/

namespace CardExpr.Regex

open Text

inductive Direction where
  | forward
  | backward
  deriving BEq

def stateSize : Nat := 32

def choiceSize (count : Nat) : Nat := stateSize + 8 * count

def unionSize (count : Nat) : Nat := stateSize + 4 * count

def total (sizes : List Nat) : Nat := sizes.foldl (· + ·) 0

/-- The transitions of a state: byte ranges, each with the number of the state behind it. -/
abbrev State := List (Utf8Range.Bytes × Nat)

/-- The number of a state, which is added to the states unless it is there. -/
def intern (state : State) (states : List State) : Nat × List State :=
  match states.idxOf? state with
  | some i => (states.length - i, states)
  | none => (states.length + 1, state :: states)

/-- Sequences in ascending order, by their first elements. -/
def groupByHead : List (List Utf8Range.Bytes) → List (Utf8Range.Bytes × List (List Utf8Range.Bytes))
  | [] => []
  | [] :: rest => groupByHead rest
  | (b :: bs) :: rest =>
    match groupByHead rest with
    | (c, tails) :: groups => if b == c then (c, bs :: tails) :: groups else (b, [bs]) :: (c, tails) :: groups
    | [] => [(b, [bs])]

/-- The states that read one of the sequences. What two sequences end in alike is read by the same
states; state 0 comes behind all of them. -/
def suffixStates : (length : Nat) → List (List Utf8Range.Bytes) → List State → Nat × List State
  | 0, _, states => (0, states)
  | length + 1, sequences, states =>
    match groupByHead sequences with
    | [] => (0, states)
    | groups =>
      let (state, states) := groups.foldl (fun (found : State × List State) group =>
        let (next, states) := suffixStates length group.2 found.2
        (found.1 ++ [(group.1, next)], states)) ([], states)
      intern state states

def commonLength : List Utf8Range.Bytes → List Utf8Range.Bytes → Nat
  | b :: bs, c :: cs => if b == c then commonLength bs cs + 1 else 0
  | _, _ => 0

/-- How many beginnings the sequences have, which ascend; one that two share counts once. -/
def prefixCount (before : List Utf8Range.Bytes) : List (List Utf8Range.Bytes) → Nat
  | [] => 0
  | bs :: rest => bs.length - commonLength before bs + prefixCount bs rest

def setSize (d : Direction) (codes : CodeSet) : Nat :=
  if codes.isAscii then stateSize + choiceSize codes.ranges.length
  else
    let sequences := Utf8Range.ofSet codes
    match d with
    | .forward =>
      stateSize + total ((suffixStates 4 sequences []).2.map fun s => choiceSize s.length)
    | .backward =>
      stateSize + unionSize sequences.length + stateSize * prefixCount [] sequences

def text? : Regex → Option (List Char)
  | .char c => some [c]
  | .seq r s => do
    let a ← r.text?
    let b ← s.text?
    some (a ++ b)
  | _ => none

def treeSize : (length : Nat) → List (List UInt8) → Nat
  | 0, _ => 0
  | length + 1, words =>
    let heads := (words.filterMap List.head?).eraseDups
    match heads with
    | [] => 0
    | [head] => unionSize 1 + stateSize + treeSize length (tails head words)
    | _ => unionSize 1 + choiceSize heads.length +
        total (heads.map fun head => treeSize length (tails head words))
where
  tails (head : UInt8) (words : List (List UInt8)) : List (List UInt8) :=
    words.filterMap fun word => if word.head? == some head then some word.tail else none

def bytes (d : Direction) (word : List Char) : List UInt8 :=
  let bytes := (String.ofList word).toUTF8.toList
  if d == .forward then bytes else bytes.reverse

/-- The size of the automaton for an expression whose branches have the given sizes. Branches that are
all texts become a tree. -/
def joinSizes (d : Direction) (r : Regex) (sizes : List Nat) : Nat :=
  match sizes with
  | [size] => size
  | _ =>
    match r.branches.mapM text? with
    | some words =>
      let words := words.map (bytes d)
      stateSize + treeSize ((words.map List.length).foldl max 0 + 1) words
    | none => unionSize sizes.length + stateSize + total sizes

/-- The sizes of the automata for the branches of an expression. Repetitions are written out as often
as they are counted. -/
def branchSizes (d : Direction) : Regex → List Nat
  | .empty => [stateSize]
  | .char c => [stateSize * c.utf8Size]
  | .oneOf codes => [setSize d codes]
  | .look _ => [stateSize]
  | .seq r s => [joinSizes d r (r.branchSizes d) + joinSizes d s (s.branchSizes d)]
  | .alt r s => r.branchSizes d ++ s.branchSizes d
  | .times r low high =>
    let one := joinSizes d r (r.branchSizes d)
    match high with
    | none =>
      if 0 < low then [low * one + unionSize 2]
      else if r.isProper then [one + unionSize 2]
      else [one + 2 * unionSize 2 + stateSize]
    | some high =>
      if low = high then [low * one]
      else if low = 0 ∧ high = 1 then [one + unionSize 2 + stateSize]
      else [max stateSize (low * one) + stateSize + (high - low) * (one + unionSize 2)]
  | .group r => [joinSizes d r (r.branchSizes d) + if d == .forward then 2 * stateSize else 0]

def size (d : Direction) (r : Regex) : Nat := joinSizes d r (r.branchSizes d)

def maxSize : Nat := 10485760

/-- Beside what the expression itself takes, the automaton searches for where a match begins. -/
def fits (r : Regex) : Bool :=
  let search := unionSize 2 + stateSize + choiceSize 1
  decide (r.size .forward + search + 3 * stateSize ≤ maxSize) &&
    decide (r.size .backward + search + stateSize ≤ maxSize)

end CardExpr.Regex
