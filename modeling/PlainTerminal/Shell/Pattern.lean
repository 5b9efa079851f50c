/-!
# File name patterns

In a pattern `*` matches any text, `?` any character and `[...]` any character of a set, as long as
they are not quoted. Matching a text goes through the pattern and, where a `*` is, through the
text.
-/

namespace PlainTerminal.Shell

/-- A character of an expanded word, which may have been quoted. -/
structure Letter where
  char : Char
  quoted : Bool
deriving DecidableEq, Repr

namespace Letter

/-- A character that was not quoted. -/
def isPlain (l : Letter) (c : Char) : Bool := l.char == c && !l.quoted

/-- The text that letters spell. -/
def spell (letters : List Letter) : String := String.ofList (letters.map (·.char))

end Letter

/-- A part of a pattern. -/
inductive PatternPart where
  | exactly (c : Char)
  | anyChar
  | anyText
  /-- A character in one of the closed ranges, or in none of them. -/
  | oneOf (negated : Bool) (ranges : List (Char × Char))
deriving DecidableEq, Repr

namespace Pattern

/-- The ranges of the named classes of characters. -/
def classRanges (name : String) : List (Char × Char) :=
  match name with
  | "alpha" => [('a', 'z'), ('A', 'Z')]
  | "digit" => [('0', '9')]
  | "alnum" => [('a', 'z'), ('A', 'Z'), ('0', '9')]
  | "upper" => [('A', 'Z')]
  | "lower" => [('a', 'z')]
  | "space" => [(' ', ' '), ('\t', '\x0d')]
  | "blank" => [(' ', ' '), ('\t', '\t')]
  | "punct" => [('!', '/'), (':', '@'), ('[', '\x60'), ('\x7b', '~')]
  | "xdigit" => [('0', '9'), ('a', 'f'), ('A', 'F')]
  | "print" => [(' ', '~')]
  | "graph" => [('!', '~')]
  | "cntrl" => [('\x00', '\x1f'), ('\x7f', '\x7f')]
  | _ => []

/-- The ranges of a set, up to its closing bracket, and what follows; `isFirst` says that a bracket
would stand for itself. -/
def setRanges : Nat → Bool → List Letter → Option (List (Char × Char) × List Letter)
  | 0, _, _ => none
  | _, _, [] => none
  | n + 1, isFirst, l :: rest =>
    if l.isPlain ']' && !isFirst then some ([], rest)
    else match rest with
      | colon :: more =>
        if l.isPlain '[' && colon.isPlain ':' then
          let name := more.takeWhile fun l => !l.isPlain ':'
          (setRanges n false (more.drop (name.length + 2))).map fun (ranges, left) =>
            (classRanges (Letter.spell name) ++ ranges, left)
        else match more with
          | last :: left =>
            if colon.isPlain '-' && !last.isPlain ']' then
              (setRanges n false left).map fun (ranges, left) =>
                ((l.char, last.char) :: ranges, left)
            else (setRanges n false rest).map fun (ranges, left) =>
              ((l.char, l.char) :: ranges, left)
          | [] => (setRanges n false rest).map fun (ranges, left) =>
            ((l.char, l.char) :: ranges, left)
      | [] => none

/-- The pattern that letters spell. A bracket that is never closed stands for itself. -/
def ofLetters : Nat → List Letter → List PatternPart
  | 0, _ => []
  | _, [] => []
  | n + 1, l :: rest =>
    if l.isPlain '*' then .anyText :: ofLetters n rest
    else if l.isPlain '?' then .anyChar :: ofLetters n rest
    else if l.isPlain '[' then
      let negated := rest.head?.any fun l => l.isPlain '!' || l.isPlain '^'
      match setRanges (rest.length + 1) true (if negated then rest.tail else rest) with
      | some (ranges, left) => .oneOf negated ranges :: ofLetters n left
      | none => .exactly l.char :: ofLetters n rest
    else .exactly l.char :: ofLetters n rest

/-- The pattern that a word spells. -/
def ofWord (letters : List Letter) : List PatternPart := ofLetters (letters.length + 1) letters

/-- The word holds something that makes it a pattern. -/
def isIn (letters : List Letter) : Bool :=
  letters.any (fun l => l.isPlain '*' || l.isPlain '?') ||
    (letters.dropWhile fun l => !l.isPlain '[').any fun l => l.isPlain ']'

/-- Some end of a text, and the whole text, satisfies a test. -/
def anyEnd (test : List Char → Bool) : List Char → Bool
  | [] => test []
  | c :: rest => test (c :: rest) || anyEnd test rest

/-- The pattern matches the whole text. -/
def accepts : List PatternPart → List Char → Bool
  | [], text => text.isEmpty
  | .anyText :: parts, text => anyEnd (accepts parts) text
  | .exactly c :: parts, text =>
    match text with
    | d :: rest => c == d && accepts parts rest
    | [] => false
  | .anyChar :: parts, text =>
    match text with
    | _ :: rest => accepts parts rest
    | [] => false
  | .oneOf negated ranges :: parts, text =>
    match text with
    | d :: rest =>
      (ranges.any fun r => r.1 ≤ d && d ≤ r.2) != negated && accepts parts rest
    | [] => false

/-- The text without the shortest or longest front that the pattern matches. -/
def dropFront (longest : Bool) (parts : List PatternPart) (text : List Char) : List Char :=
  let lengths := List.range (text.length + 1)
  let lengths := if longest then lengths.reverse else lengths
  match lengths.find? fun n => accepts parts (text.take n) with
  | some n => text.drop n
  | none => text

/-- The text without the shortest or longest back that the pattern matches. -/
def dropBack (longest : Bool) (parts : List PatternPart) (text : List Char) : List Char :=
  let lengths := List.range (text.length + 1)
  let lengths := if longest then lengths else lengths.reverse
  match lengths.find? fun n => accepts parts (text.drop n) with
  | some n => text.take n
  | none => text

/-- The names that a pattern for one segment matches; a dot at the front of a name is matched by a
dot only. -/
def select (parts : List PatternPart) (names : List String) : List String :=
  names.filter fun name =>
    (parts.head? == some (.exactly '.') || name.toList.head? != some '.') &&
      accepts parts name.toList

end Pattern

end PlainTerminal.Shell
