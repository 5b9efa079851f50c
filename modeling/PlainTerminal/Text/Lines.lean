/-!
# Lines

A line ends at a line feed; a carriage return right before it belongs to the end. The text after the
last line feed is a line of its own unless it is empty.
-/

namespace PlainTerminal.Text

/-- A line without a carriage return at its end. -/
def withoutReturn (line : List Char) : List Char :=
  if line.getLast? = some '\x0d' then line.dropLast else line

/-- The lines of a string of characters. A carriage return counts as an end only before a line
feed. -/
def linesOf (s : List Char) : List (List Char) :=
  match (s.splitOn '\n').reverse with
  | [] => []
  | last :: ended =>
    (ended.map withoutReturn).reverse ++ if last = [] then [] else [last]

/-- The lines of a text. -/
def lines (text : String) : List String := (linesOf text.toList).map String.ofList

end PlainTerminal.Text
