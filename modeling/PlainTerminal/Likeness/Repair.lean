import PlainTerminal.Likeness.Match
import PlainTerminal.Text.Blank

/-!
# Repairing a file name

A command that only reads one file gets the name of the file put right when no entry of the
directory has that name and some entry comes close. Everything else stays as it was typed, in
particular whatever holds a shell operator, a path, a pattern or several operands.
-/

namespace PlainTerminal.Likeness

/-- Programs that only read their operand. -/
def readers : List String := ["cat", "less", "more", "head", "tail", "wc", "file", "stat"]

/-- Characters with which a shell does more than pass a word on. -/
def operatorChars : List Char := ['>', '<', '|', '&', ';', '\x60', '$']

/-- Characters of a word that is no plain file name. -/
def patternChars : List Char := ['/', '*', '?', '\x22', '\x27']

/-- The text has a character of a list. -/
def hasAny (chars : List Char) (text : String) : Bool := text.toList.any chars.contains

/-- A word that sets an option. -/
def isFlag (word : String) : Bool := word.toList.head? == some '-'

/-- The name that a command's operand should have had, if it can be repaired: the program, its
other words, the operand and the entry meant by it. -/
def repairOf (command : String) (entries : List String) :
    Option (String × List String × String × String) :=
  match Text.words command with
  | [] => none
  | program :: rest =>
    if entries.isEmpty || !readers.contains program || rest.any (hasAny operatorChars) then none
    else match rest.filter fun w => !isFlag w with
      | [operand] =>
        if hasAny patternChars operand || entries.contains operand then none
        else (bestMatch operand entries).map fun found => (program, rest, operand, found)
      | _ => none

/-- The command with its file name put right, or as it was. -/
def repair (command : String) (entries : List String) : String :=
  match repairOf command entries with
  | none => command
  | some (program, rest, operand, found) =>
    " ".intercalate (program :: rest.map fun w => if w = operand then found else w)

end PlainTerminal.Likeness
