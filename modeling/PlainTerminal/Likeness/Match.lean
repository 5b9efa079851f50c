import PlainTerminal.Likeness.EditDistance
import PlainTerminal.Text.Lowercase

/-!
# Names that a user may have meant

Scores how well a typed name fits a file name, letter case aside: the whole name, then the name
without its extension, a beginning, a part, and last a name that is misspelt or abbreviated. Longer
file names cost points, an equal extension earns some. `bestMatch` picks the entry with the most
points, of those the shortest, and of those the last.
-/

namespace PlainTerminal.Likeness

/-- The part of a name before its last dot and the part after it. A dot in front hides a file, it
does not begin an extension. -/
def splitExtension (name : List Char) : Option (List Char × List Char) :=
  let (extension, rest) := name.reverse.span (· ≠ '.')
  match rest with
  | [] => none
  | _ :: [] => none
  | _ :: stem => some (stem.reverse, extension.reverse)

/-- A name without its extension. -/
def stem (name : String) : String :=
  match splitExtension name.toList with
  | some (stem, _) => String.ofList stem
  | none => name

/-- The extension of a name. -/
def extension? (name : String) : Option String :=
  (splitExtension name.toList).map fun e => String.ofList e.2

/-- The characters of the first text occur in the second one in the same order. -/
def isSubsequence : List Char → List Char → Bool
  | [], _ => true
  | _ :: _, [] => false
  | x :: a, y :: b => if x = y then isSubsequence a b else isSubsequence (x :: a) b

/-- The first text occurs in the second one. -/
def occursIn (needle : List Char) : List Char → Bool
  | [] => needle.isEmpty
  | c :: rest => needle.isPrefixOf (c :: rest) || occursIn needle rest

/-- Points that a long name costs. -/
def lengthPenalty (candidate : String) : Int := min candidate.utf8ByteSize 40

/-- The points of a lower-cased candidate before the extension counts; none if it does not fit.
Short queries fit only as they are spelt. -/
def basePoints (query candidate : String) (penalty : Int) : Option Int :=
  if candidate = query then some 1000
  else if stem candidate = query then some 400
  else if query.toList.isPrefixOf candidate.toList then some (300 - penalty)
  else if occursIn query.toList candidate.toList then some (200 - penalty)
  else
    let steps := min (distance query (stem candidate)) (distance query candidate)
    if steps ≤ 2 ∧ query.utf8ByteSize > 2 then some (150 - (steps : Int) * 20 - penalty)
    else if query.utf8ByteSize > 2 ∧ isSubsequence query.toList candidate.toList = true then
      some (100 - penalty)
    else none

/-- Both names have an extension, and it is the same. -/
def sameExtension (a b : String) : Bool :=
  match extension? a, extension? b with
  | some x, some y => x == y
  | _, _ => false

/-- How well a candidate fits a query; zero means that it does not. -/
def score (query candidate : String) : Int :=
  if query = "" then 0
  else
    let q := Text.lowercase query
    let c := Text.lowercase candidate
    match basePoints q c (lengthPenalty candidate) with
    | none => 0
    | some points => max (points + if sameExtension q c then 25 else 0) 1

/-- The second entry is at least as good a match as the first. -/
def noBetterThan (query a b : String) : Bool :=
  let s := score query a
  let t := score query b
  s < t || (s == t && b.utf8ByteSize ≤ a.utf8ByteSize)

/-- The entry that the query most likely means. -/
def bestMatch (query : String) (entries : List String) : Option String :=
  (entries.filter fun e => 0 < score query e).foldl
    (fun best e => match best with
      | none => some e
      | some b => if noBetterThan query b e then some e else some b) none

end PlainTerminal.Likeness
