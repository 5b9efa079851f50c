import PlainTerminal.Text.Blank

/-!
# Writing a text to a file

`echo TEXT > FILE` writes a file and `echo TEXT >> FILE` appends to one. The file is the last word
of the command. The text ends at the first `>` from which the rest of the command reads as operator
and file, so it may hold further ones; it may not hold a line break.
-/

namespace PlainTerminal.Redirect

/-- How a file is written. -/
inductive Operator where
  | overwrite
  | append
deriving DecidableEq, Repr

/-- A command that writes a text to a file. -/
structure Write where
  text : String
  operator : Operator
  path : String
deriving DecidableEq, Repr

/-- The last word of a command: what is left after blanks, if that is one word. -/
def fileName? (s : List Char) : Option (List Char) :=
  match s.dropWhile Text.isBlank with
  | [] => none
  | word => if word.all fun c => !Text.isBlank c then some word else none

/-- Operator and file, if that is all there is. Where both operators fit, it is the longer one. -/
def target? (s : List Char) : Option (Operator × List Char) :=
  match s.dropWhile Text.isBlank with
  | '>' :: rest =>
    match rest with
    | '>' :: beyond =>
      match fileName? beyond with
      | some word => some (.append, word)
      | none => (fileName? rest).map fun word => (.overwrite, word)
    | _ => (fileName? rest).map fun word => (.overwrite, word)
  | _ => none

/-- The shortest text that is followed by operator and file. -/
def split? (s : List Char) : Option (List Char × Operator × List Char) :=
  match target? s with
  | some (operator, path) => some ([], operator, path)
  | none =>
    match s with
    | [] => none
    | c :: rest =>
      if c = '\n' then none
      else (split? rest).map fun (text, operator, path) => (c :: text, operator, path)

/-- The write that a command asks for. -/
def parse? (command : String) : Option Write :=
  match command.toList with
  | 'e' :: 'c' :: 'h' :: 'o' :: c :: rest =>
    if Text.isBlank c then
      (split? (rest.dropWhile Text.isBlank)).map fun (text, operator, path) =>
        ⟨String.ofList text, operator, String.ofList path⟩
    else none
  | _ => none

/-- The text is enclosed in a pair of the given quotes. -/
def isEnclosedIn (quote : Char) (s : List Char) : Bool :=
  2 ≤ s.length && s.head? == some quote && s.getLast? == some quote

/-- A trimmed text without the pair of quotes around it, if there is one. -/
def unquote (text : String) : String :=
  let s := Text.stripChars Text.isBlank text.toList
  if isEnclosedIn '\x22' s || isEnclosedIn '\x27' s then String.ofList s.tail.dropLast
  else String.ofList s

end PlainTerminal.Redirect
