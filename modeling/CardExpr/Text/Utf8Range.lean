import CardExpr.Text.CodeSet

/-! The bytes that encode ranges of code points: sequences of byte ranges. -/

namespace CardExpr.Text.Utf8Range

abbrev Bytes := Nat × Nat

/-- How many values `count` continuation bytes have together. -/
def span : (count : Nat) → Nat
  | 0 => 1
  | count + 1 => 64 * span count

/-- Splits the range between two code points with `count` continuation bytes behind a leading byte, in
which `mark` is what tells that number, where the leading bytes differ and do not have all the values
of the others. -/
def split (mark : Nat) : (count : Nat) → (first last : Nat) → List (List Bytes)
  | 0, first, last => [[(mark + first, mark + last)]]
  | count + 1, first, last =>
    let size := span (count + 1)
    let behind := fun (lead a b : Nat) => (split 0x80 count a b).map ((mark + lead, mark + lead) :: ·)
    let (low, high) := (first / size, last / size)
    if low = high then behind low (first % size) (last % size)
    else
      let head := if first % size = 0 then [] else behind low (first % size) (size - 1)
      let tail := if last % size = size - 1 then [] else behind high 0 (last % size)
      let start := if first % size = 0 then low else low + 1
      let stop := if last % size = size - 1 then high + 1 else high
      let middle := if start < stop then
          [(mark + start, mark + (stop - 1)) :: List.replicate (count + 1) (0x80, 0xBF)]
        else []
      head ++ middle ++ tail

/-- The parts of a range that one number of bytes encodes; surrogates are not encoded. -/
def sequences (first last : Nat) : List (List Bytes) :=
  [(0, 0x7F, 0, 0), (0x80, 0x7FF, 0xC0, 1), (0x800, 0xD7FF, 0xE0, 2), (0xE000, 0xFFFF, 0xE0, 2),
    (0x10000, 0x10FFFF, 0xF0, 3)].flatMap fun (low, high, mark, count) =>
    let (a, b) := (max low first, min high last)
    if a ≤ b then split mark count a b else []

def ofSet (s : CodeSet) : List (List Bytes) := s.ranges.flatMap fun r => sequences r.1 r.2

end CardExpr.Text.Utf8Range
