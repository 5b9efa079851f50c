import PlainTerminal.Text.Blank
import PlainTerminal.Text.Lines
import PlainTerminal.Text.WordChar

/-!
# Suggested commands

A model suggests commands a line each, often numbered, bulleted or in grave accents. What is left of
a line when these are taken off is a suggestion unless it is empty; more than five are too many.
-/

namespace PlainTerminal.Suggestions

/-- The commands suggested when the model suggests none. -/
def defaults : List String :=
  ["ls -la", "pwd", "mkdir new-folder", "touch new-file.txt", "cat filename"]

/-- Takes a number with its point or bracket, or a bullet, off the front of a line, with the blanks
after it. -/
def withoutNumber (line : List Char) : List Char :=
  match line with
  | '-' :: rest | '*' :: rest => rest.dropWhile Text.isBlank
  | _ =>
    match line.span Text.isDigit with
    | (_ :: _, '.' :: rest) | (_ :: _, ')' :: rest) => rest.dropWhile Text.isBlank
    | _ => line

/-- The suggestion in a line. -/
def ofLine (line : List Char) : List Char :=
  let bare := withoutNumber (Text.stripChars Text.isBlank line)
  Text.stripChars (· == '\x60') (Text.stripChars Text.isBlank bare)

/-- The suggestions in a text. -/
def ofText (text : String) : List String :=
  (((Text.linesOf text.toList).map ofLine).filter (· ≠ [])).take 5 |>.map String.ofList

end PlainTerminal.Suggestions
