import CardExpr.Text.CategoryTable

/-! Sets of code points and their algebra. Ranges may be given in any order. -/

namespace CardExpr.Text

/-- The first and the last code point of each range. The ranges ascend and do not touch. -/
structure CodeSet where
  ranges : List (Nat × Nat)

namespace CodeSet

def maxCode : Nat := 0x10FFFF

def empty : CodeSet := ⟨[]⟩

def full : CodeSet := ⟨[(0, maxCode)]⟩

def range (first last : Nat) : CodeSet := ⟨[(first, last)]⟩

def single (n : Nat) : CodeSet := range n n

def inRange (n : Nat) (r : Nat × Nat) : Bool := decide (r.1 ≤ n ∧ n ≤ r.2)

def contains (s : CodeSet) (n : Nat) : Bool := s.ranges.any (inRange n)

def has (s : CodeSet) (c : Char) : Bool := s.contains c.toNat

/-- Joins the ranges that overlap or touch. They ascend by their first members, and the range from
`first` to `last` comes before them. -/
def joinFrom (first last : Nat) : List (Nat × Nat) → List (Nat × Nat)
  | [] => [(first, last)]
  | (a, b) :: rest =>
    if a ≤ last + 1 then joinFrom first (max last b) rest
    else (first, last) :: joinFrom a b rest

def ofRanges (ranges : List (Nat × Nat)) : CodeSet :=
  match ranges.mergeSort fun r s => decide (r.1 ≤ s.1) with
  | [] => empty
  | (first, last) :: rest => ⟨joinFrom first last rest⟩

def unions (sets : List CodeSet) : CodeSet := ofRanges (sets.flatMap (·.ranges))

def union (s t : CodeSet) : CodeSet := ofRanges (s.ranges ++ t.ranges)

/-- What lies between ascending ranges, from `next` on. -/
def gapsFrom (next : Nat) : List (Nat × Nat) → List (Nat × Nat)
  | [] => if next ≤ maxCode then [(next, maxCode)] else []
  | (a, b) :: rest =>
    if next < a then (next, a - 1) :: gapsFrom (b + 1) rest else gapsFrom (b + 1) rest

def complement (s : CodeSet) : CodeSet := ⟨gapsFrom 0 s.ranges⟩

def inter (s t : CodeSet) : CodeSet := (s.complement.union t.complement).complement

def diff (s t : CodeSet) : CodeSet := s.inter t.complement

def symmDiff (s t : CodeSet) : CodeSet := (s.diff t).union (t.diff s)

def isAscii (s : CodeSet) : Bool := s.ranges.all fun r => decide (r.2 < 128)

/-- The only member, if there is no other. -/
def only? (s : CodeSet) : Option Nat :=
  match s.ranges with
  | [(first, last)] => if first = last then some first else none
  | _ => none

def ofCodes (codes : List Nat) : CodeSet := ofRanges (codes.map fun n => (n, n))

/-- The members of rows with a step between them. -/
def ofRows (rows : List Category.Range) : CodeSet :=
  ofRanges (rows.flatMap fun r =>
    if r.2.2 = 1 then [(r.1, r.2.1)]
    else (List.range ((r.2.1 - r.1) / r.2.2 + 1)).map fun k => (r.1 + k * r.2.2, r.1 + k * r.2.2))

def hexValue (digits : String) : Nat :=
  digits.toList.foldl (fun n c => 16 * n + if c.isDigit then c.toNat - 48 else c.toNat - 55) 0

/-- Reads code points and ranges between two of them, in capital hexadecimal digits and with blanks or
line ends between them. -/
def ofHex (text : String) : CodeSet :=
  ofRanges ((text.splitToList Char.isWhitespace).filterMap fun word =>
    match word.splitToList (· == '-') with
    | [code] => if code.isEmpty then none else some (hexValue code, hexValue code)
    | [first, last] => some (hexValue first, hexValue last)
    | _ => none)

end CodeSet

end CardExpr.Text
