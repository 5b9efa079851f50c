/-!
# Character ranges

A class of characters is written down as a list of closed ranges of code points.
-/

namespace PlainTerminal.Text

/-- The code point lies in one of the closed ranges. -/
def inRanges (ranges : List (Nat × Nat)) (n : Nat) : Bool :=
  ranges.any fun (lo, hi) => lo ≤ n && n ≤ hi

end PlainTerminal.Text
