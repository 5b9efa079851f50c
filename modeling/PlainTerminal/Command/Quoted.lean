/-!
# Words in double quotes

A text is handed to a shell inside double quotes, with a backslash before each of the four
characters that keep a meaning there. `readQuoted` is the shell's side: what a double-quoted word at
the front of a line says, as long as nothing in it starts an expansion.
-/

namespace PlainTerminal.Quoted

/-- The characters that keep a meaning inside double quotes. -/
def isSpecial (c : Char) : Bool := c == '\x22' || c == '\x5c' || c == '$' || c == '\x60'

/-- A character as it is written inside double quotes. -/
def escape (c : Char) : List Char := if isSpecial c then ['\x5c', c] else [c]

/-- The characters of a double-quoted word. -/
def quoteChars (s : List Char) : List Char := '\x22' :: (s.flatMap escape ++ ['\x22'])

/-- A text as a double-quoted word. -/
def quote (text : String) : String := String.ofList (quoteChars text.toList)

/-- What may follow a backslash that loses its meaning by it; a line break vanishes with it. -/
def isEscapable (c : Char) : Bool := isSpecial c || c == '\n'

/-- Reads up to the closing double quote: the text said, and the rest of the line. An unescaped
dollar sign or grave accent starts an expansion, so there is no answer. -/
def readBody : List Char → Option (List Char × List Char)
  | [] => none
  | '\x22' :: rest => some ([], rest)
  | '\x5c' :: c :: rest =>
    if c = '\n' then readBody rest
    else (readBody rest).map fun (said, left) =>
      (if isEscapable c then c :: said else '\x5c' :: c :: said, left)
  | c :: rest =>
    if c = '$' ∨ c = '\x60' then none
    else (readBody rest).map fun (said, left) => (c :: said, left)

/-- Reads a double-quoted word at the front of a line. -/
def readQuoted : List Char → Option (List Char × List Char)
  | '\x22' :: rest => readBody rest
  | _ => none

end PlainTerminal.Quoted
