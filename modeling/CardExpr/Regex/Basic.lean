import CardExpr.Text.CodeSet

/-! Regular expressions and the texts that they occur in. -/

namespace CardExpr

open Text

/-- A condition on the characters before and behind a position. The ones on words take the set of the
characters that words are made of. -/
inductive Look where
  | textStart
  | textEnd
  | lineStart
  | lineEnd
  /-- Lines that end in a line feed, a carriage return or both. -/
  | lineStartAny
  | lineEndAny
  | boundary (word : CodeSet)
  | notBoundary (word : CodeSet)
  | wordStart (word : CodeSet)
  | wordEnd (word : CodeSet)
  | wordStartHalf (word : CodeSet)
  | wordEndHalf (word : CodeSet)

def Look.holds (before after : Option Char) : Look → Bool
  | .textStart => before.isNone
  | .textEnd => after.isNone
  | .lineStart => before.isNone || before == some '\n'
  | .lineEnd => after.isNone || after == some '\n'
  | .lineStartAny =>
    before.isNone || before == some '\n' || (before == some '\r' && after != some '\n')
  | .lineEndAny =>
    after.isNone || after == some '\r' || (after == some '\n' && before != some '\r')
  | .boundary word => before.any word.has != after.any word.has
  | .notBoundary word => before.any word.has == after.any word.has
  | .wordStart word => !before.any word.has && after.any word.has
  | .wordEnd word => before.any word.has && !after.any word.has
  | .wordStartHalf word => !before.any word.has
  | .wordEndHalf word => !after.any word.has

inductive Regex where
  | empty
  | char (c : Char)
  | oneOf (codes : CodeSet)
  | look (condition : Look)
  | seq (first second : Regex)
  | alt (left right : Regex)
  /-- At least `low` times, and at most `high` times if that is given. -/
  | times (body : Regex) (low : Nat) (high : Option Nat)
  /-- A part whose match is of interest for itself. -/
  | group (body : Regex)

namespace Regex

def merge : List Nat → List Nat → List Nat
  | [], ys => ys
  | xs, [] => xs
  | x :: xs, y :: ys =>
    if x < y then x :: merge xs (y :: ys)
    else if y < x then y :: merge (x :: xs) ys
    else x :: merge xs ys

def without : List Nat → List Nat → List Nat
  | [], _ => []
  | xs, [] => xs
  | x :: xs, y :: ys =>
    if x < y then x :: without xs (y :: ys)
    else if y < x then without (x :: xs) ys
    else without xs ys

/-- What is known of an expression: the positions at which the loops in it have begun a round. A loop
need not begin another round there, since what follows does not depend on where the loop began. -/
inductive Trail where
  | untried
  | both (first second : Trail)
  | rounds (tried : List Nat) (body : Trail)

def Trail.first : Trail → Trail
  | .both first _ => first
  | _ => .untried

def Trail.second : Trail → Trail
  | .both _ second => second
  | _ => .untried

def Trail.tried : Trail → List Nat
  | .rounds tried _ => tried
  | _ => []

def Trail.body : Trail → Trail
  | .rounds _ body => body
  | _ => .untried

/-- From positions at which a match begins to those at which it can end, as far as earlier ones have not
led there. -/
abbrev Step := Trail → List Nat → List Nat × Trail

def Step.andThen (first second : Step) : Step := fun trail at_ =>
  let (next, t) := first trail.first at_
  if next.isEmpty then ([], .both t trail.second)
  else
    let (ends, u) := second trail.second next
    (ends, .both t u)

def chain (step last : Step) : Nat → Step
  | 0 => last
  | count + 1 => step.andThen (chain step last count)

def optional (step : Step) : Nat → Step
  | 0 => fun trail at_ => (at_, trail)
  | count + 1 => fun trail at_ =>
    let (ends, trail) := step.andThen (optional step count) trail at_
    (merge at_ ends, trail)

/-- Any number of matches, of which there is at least one if `must` says so. Every round begins at a
further position, so that there are no more rounds than positions. -/
def loop (step : Step) (must : Bool) : (rounds : Nat) → Step
  | 0 => fun trail _ => ([], trail)
  | rounds + 1 => fun trail at_ =>
    let fresh := without at_ trail.tried
    if fresh.isEmpty then ([], trail)
    else
      let (next, body) := step trail.body fresh
      let (ends, trail) := loop step must rounds (.rounds (merge trail.tried fresh) body) next
      (merge (if must then next else fresh) ends, trail)

def advance (text : Array Char) (test : Char → Bool) (at_ : List Nat) : List Nat :=
  at_.filterMap fun i => (text[i]?).bind fun c => if test c then some (i + 1) else none

/-- The positions at which a match that began at one of the given positions can end. More repetitions
than the text has characters lead nowhere else. -/
def ends (text : Array Char) : Regex → Step
  | .empty => fun trail at_ => (at_, trail)
  | .char c => fun trail at_ => (advance text (· == c) at_, trail)
  | .oneOf codes => fun trail at_ => (advance text codes.has at_, trail)
  | .look condition => fun trail at_ =>
    (at_.filter fun i => condition.holds (if i = 0 then none else text[i - 1]?) text[i]?, trail)
  | .seq first second => Step.andThen (ends text first) (ends text second)
  | .alt left right => fun trail at_ =>
    let (a, t) := ends text left trail.first at_
    let (b, u) := ends text right trail.second at_
    (merge a b, .both t u)
  | .times body low high =>
    let step := ends text body
    let enough := text.size + 2
    match high with
    | none => chain step (loop step (decide (0 < low)) enough) (min (low - 1) enough)
    | some high => chain step (optional step (min (high - low) enough)) (min low enough)
  | .group body => ends text body

def occursIn (r : Regex) (text : String) : Bool :=
  let chars := text.toList.toArray
  !(r.ends chars .untried (List.range (chars.size + 1))).1.isEmpty

def ofCodes (codes : CodeSet) : Regex :=
  match codes.only? with
  | some n => .char (Char.ofNat n)
  | none => .oneOf codes

def append : Regex → Regex → Regex
  | .empty, r => r
  | r, .empty => r
  | r, s => .seq r s

/-- Whether the expression consumes no character wherever it matches. -/
def isEmptyOnly : Regex → Bool
  | .empty => true
  | .look _ => true
  | .char _ => false
  | .oneOf _ => false
  | .seq r s => r.isEmptyOnly && s.isEmptyOnly
  | .alt r s => r.isEmptyOnly && s.isEmptyOnly
  | .times r _ high => r.isEmptyOnly || high == some 0
  | .group r => r.isEmptyOnly

/-- Whether the expression consumes a character wherever it matches. -/
def isProper : Regex → Bool
  | .empty => false
  | .look _ => false
  | .char _ => true
  | .oneOf codes => !codes.ranges.isEmpty
  | .seq r s => r.isProper || s.isProper
  | .alt r s => r.isProper && s.isProper
  | .times r low _ => decide (0 < low) && r.isProper
  | .group r => r.isProper

/-- Repetition. A second match of nothing adds nothing to the first one. -/
def repeated (body : Regex) (low : Nat) (high : Option Nat) : Regex :=
  let (low, high) :=
    if body.isEmptyOnly then (min low 1, some (min (high.getD 1) 1)) else (low, high)
  if high == some 0 then .empty
  else if low == 1 && high == some 1 then body
  else .times body low high

def branches : Regex → List Regex
  | .alt left right => left.branches ++ right.branches
  | r => [r]

def codes? : Regex → Option CodeSet
  | .char c => some (.single c.toNat)
  | .oneOf codes => some codes
  | _ => none

/-- A choice between branches, of which there is at least one. A choice between characters is a set. -/
def ofBranches (rs : List Regex) : Regex :=
  let flat := rs.flatMap branches
  match flat with
  | [] => .empty
  | r :: others =>
    match if others.isEmpty then none else flat.mapM codes? with
    | some sets => ofCodes (.unions sets)
    | none => others.foldl .alt r

end Regex

end CardExpr
