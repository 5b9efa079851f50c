import PlainTerminal.Text.Ranges

/-!
# Blanks and words

What counts as blank space, and the operations that every reader of a command line needs: trimming,
splitting into words, and cutting at the first blank. The blanks are those of Unicode's
`White_Space` property, so a no-break space or an ideographic space separates words just as a tab
does.
-/

namespace PlainTerminal.Text

/-- The blank characters, as closed ranges of code points. -/
def blankRanges : List (Nat × Nat) :=
  [(0x09, 0x0d), (0x20, 0x20), (0x85, 0x85), (0xa0, 0xa0), (0x1680, 0x1680), (0x2000, 0x200a),
    (0x2028, 0x2029), (0x202f, 0x202f), (0x205f, 0x205f), (0x3000, 0x3000)]

/-- Blank space of any kind, line breaks included. -/
def isBlank (c : Char) : Bool := inRanges blankRanges c.toNat

/-- Drops the characters of a class at the front and at the back. -/
def stripChars (p : Char → Bool) (s : List Char) : List Char :=
  ((s.dropWhile p).reverse.dropWhile p).reverse

/-- Drops the characters of a class at the back. -/
def stripEndChars (p : Char → Bool) (s : List Char) : List Char :=
  (s.reverse.dropWhile p).reverse

/-- The text without the blanks at its two ends. -/
def trim (text : String) : String := String.ofList (stripChars isBlank text.toList)

/-- The text without the blanks at its end. -/
def trimEnd (text : String) : String := String.ofList (stripEndChars isBlank text.toList)

/-- The maximal runs of characters that are not blank. -/
def wordsOf (s : List Char) : List (List Char) := (s.splitOnP isBlank).filter (· ≠ [])

/-- The words of a text, in order. -/
def words (text : String) : List String := (wordsOf text.toList).map String.ofList

/-- The part before the first blank, and the trimmed part after it. -/
def splitAtBlank (text : String) : String × String :=
  match text.toList.span fun c => !isBlank c with
  | (first, []) => (String.ofList first, "")
  | (first, _ :: rest) => (String.ofList first, trim (String.ofList rest))

/-- Nothing but blanks. -/
def isBlankText (text : String) : Bool := text.toList.all isBlank

end PlainTerminal.Text
