/-!
# Shell commands

What a line for the shell is once it has been read. A word is a list of pieces, each of which
remembers whether it was quoted: a quoted piece is taken as it is, the result of an unquoted
expansion is cut into fields, and file name patterns are only recognised in unquoted text.
-/

namespace PlainTerminal.Shell

/-- What is made of the value of a parameter. The flag of a use says whether an empty value counts
as a missing one. -/
inductive Use where
  | value
  | length
  /-- A word in place of a missing value. -/
  | default (orEmpty : Bool)
  /-- The same, and the parameter is set to the word. -/
  | assign (orEmpty : Bool)
  /-- A missing value is an error, with the word as its message. -/
  | demand (orEmpty : Bool)
  /-- A word in place of a value that is there. -/
  | alternative (orEmpty : Bool)
  /-- The value without what a pattern matches at its front. -/
  | withoutFront (longest : Bool)
  /-- The value without what a pattern matches at its back. -/
  | withoutBack (longest : Bool)
  /-- Nothing that the shell knows. -/
  | unknown
deriving DecidableEq, Repr

/-- What a redirection does with its descriptor. -/
inductive RedirectionKind where
  | input
  | output
  /-- The same, also if files are not to be overwritten. -/
  | overwrite
  | append
  | both
  /-- Makes it stand for what another one stands for, or closes it. -/
  | duplicate
  /-- Lets it read a text that is part of the script. -/
  | document
deriving DecidableEq, Repr

/-- The operators that combine commands. -/
inductive Connective where
  | sequence
  | and
  | or
deriving DecidableEq, Repr

mutual

/-- A piece of a word. -/
inductive Piece where
  | text (quoted : Bool) (chars : List Char)
  /-- The home directory of a user, written `~`. With `inValue` it stands where only the value of a
  variable may have one. -/
  | home (user : List Char) (inValue : Bool)
  | parameter (quoted : Bool) (name : String) (use : Use) (word : List Piece)
  | substitution (quoted : Bool) (body : Command)
  | arithmetic (quoted : Bool) (expression : List Piece)

/-- A change of what a descriptor stands for while a command runs. -/
inductive Redirection where
  | mk (descriptor : Nat) (kind : RedirectionKind) (target : List Piece)

/-- A command. -/
inductive Command where
  /-- Does nothing. -/
  | nothing
  /-- A command at a line of the script, with variables to set for it. -/
  | simple (line : Nat) (assignments : List (String × List Piece)) (words : List (List Piece))
      (redirections : List Redirection)
  | pipeline (negated : Bool) (stages : List Command)
  | connected (how : Connective) (first second : Command)
  | background (body : Command)
  | subshell (line : Nat) (body : Command)
  | redirected (line : Nat) (body : Command) (redirections : List Redirection)
  | conditional (test thenBody elseBody : Command)
  /-- Repeats the body as long as the test ends as `wanted` says. -/
  | loop (wanted : Bool) (test body : Command)
  /-- Repeats the body for each field of the words, or for each positional parameter. -/
  | each (line : Nat) (name : String) (words : Option (List (List Piece))) (body : Command)
  | choose (line : Nat) (word : List Piece) (cases : List (List (List Piece) × Command))
  | define (name : String) (body : Command)

end

/-- A word. -/
abbrev Word := List Piece

instance : Inhabited Command := ⟨.nothing⟩

instance : Inhabited Piece := ⟨.text false []⟩

/-- A word that is not the value of a variable: `~` is only a home directory at its front. -/
def Word.outsideValue (w : Word) : Word :=
  w.map fun
    | .home user true => .text false ('~' :: user)
    | piece => piece

/-- The name that a word gives a value to, if it has the form of an assignment. -/
def Word.assigned? : Word → Option String
  | .text false chars :: _ =>
    let name := chars.takeWhile fun c => c.isAlphanum || c == '_'
    if chars[name.length]? = some '=' ∧ name.head?.any (fun c => !c.isDigit) = true then
      some (String.ofList name)
    else none
  | _ => none

/-- One command after the other. -/
def Command.andThen : Command → Command → Command
  | .nothing, second => second
  | first, .nothing => first
  | first, second => .connected .sequence first second

end PlainTerminal.Shell
