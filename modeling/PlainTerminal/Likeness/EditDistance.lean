/-!
# Edit distance

The least number of single-character insertions, deletions and replacements that turn one text into
another. `editDistance` is the recursion on the two texts that says so; it is far too slow to run.
`distance` computes the same number row by row: after some characters of the first text, the row
holds the distances from them to every beginning of the second text. Only two rows are kept. The
next one is written over the older of them, and then they change places.
-/

namespace PlainTerminal.Likeness

/-- The edit distance by the recursion on both texts. -/
def editDistance : List Char → List Char → Nat
  | [], b => b.length
  | a, [] => a.length
  | x :: a, y :: b =>
    min (editDistance a b + if x = y then 0 else 1)
      (min (editDistance a (y :: b) + 1) (editDistance (x :: a) b + 1))
termination_by a b => a.length + b.length

/-- Writes the row below another one over `row`, for one more character of the first text and what
is left of the second. The places up to `j` are written already, the ones behind it still hold
numbers of an older row. -/
def overwrite (x : Char) (above : Array Nat) : List Char → Nat → Array Nat → Array Nat
  | [], _, row => row
  | y :: b, j, row =>
    let here :=
      min (min (above.getD j 0 + if x = y then 0 else 1) (above.getD (j + 1) 0 + 1))
        (row.getD j 0 + 1)
    overwrite x above b (j + 1) (row.setIfInBounds (j + 1) here)

/-- The two rows that are kept: the last one that was written, and the one that is written next. -/
structure Rows where
  last : Array Nat
  next : Array Nat

namespace Rows

/-- The rows before the first character, for a second text of length `n`. -/
def start (n : Nat) : Rows := ⟨Array.range (n + 1), Array.replicate (n + 1) 0⟩

/-- The rows after one more character of the first text, the one with this number. -/
def advance (b : List Char) (rows : Rows) (x : Char × Nat) : Rows where
  last := overwrite x.1 rows.last b 0 (rows.next.setIfInBounds 0 (x.2 + 1))
  next := rows.last

end Rows

/-- The edit distance of two texts. -/
def distance (a b : String) : Nat :=
  let b := b.toList
  let rows := a.toList.zipIdx.foldl (Rows.advance b) (.start b.length)
  rows.last.getD b.length 0

end PlainTerminal.Likeness
