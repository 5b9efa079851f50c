/-!
# Paths

A path is resolved by its text alone: it is cut at the slashes, empty pieces and `.` vanish, and
`..` takes away the piece before it, or nothing at the root. What remains is the list of
*segments*; written out again it is the path's canonical form, `/` or `/a/b/c`. Every decision of
the library about a place in a tree is made on segments or on the canonical form.
-/

namespace PlainTerminal.Path

/-- Adds one piece of a path to the segments before it, which are kept last one first. -/
def push (above : List String) (piece : String) : List String :=
  if piece = "" ∨ piece = "." then above
  else if piece = ".." then above.tail
  else piece :: above

/-- The pieces of a path between its slashes. -/
def pieces (path : String) : List String := (path.toList.splitOn '/').map String.ofList

/-- The path begins at the root. -/
def isAbsolute (path : String) : Bool := path.toList.head? == some '/'

/-- The text without the slashes at its end. -/
def withoutEndSlashes (path : String) : String :=
  String.ofList (path.toList.reverse.dropWhile (· == '/')).reverse

/-- The path as seen from `base`, before it is resolved. -/
def join (base path : String) : String :=
  if isAbsolute path then path else withoutEndSlashes base ++ "/" ++ path

/-- The segments of a path as seen from `base`. -/
def segments (base path : String) : List String :=
  ((pieces (join base path)).foldl push []).reverse

/-- Segments written out. -/
def render (segments : List String) : String :=
  if segments = [] then "/" else "/" ++ "/".intercalate segments

/-- The canonical form of a path as seen from `base`. -/
def normalize (base path : String) : String := render (segments base path)

/-- A text that can stand between two slashes of a canonical path. -/
def IsSegment (s : String) : Prop := s ≠ "" ∧ s ≠ "." ∧ s ≠ ".." ∧ '/' ∉ s.toList

/-- Canonical paths are the written form of lists of segments. -/
def IsCanonical (path : String) : Prop :=
  ∃ segs : List String, (∀ s ∈ segs, IsSegment s) ∧ path = render segs

/-- The path is `dir` or lies below it. -/
def isWithin (dir path : String) : Bool :=
  path == dir || (dir ++ "/").toList.isPrefixOf path.toList

end PlainTerminal.Path
