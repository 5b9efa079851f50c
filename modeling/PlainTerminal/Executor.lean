import PlainTerminal.Command.Policy
import PlainTerminal.Dialogue
import PlainTerminal.Path

/-!
# The executor

Runs commands in the real shell, from a working directory that it keeps itself: a `cd` never reaches
the shell, it changes that directory if there is one to change to. Nothing that is refused by the
policy reaches the shell either.
-/

namespace PlainTerminal

/-- The executor of a session: its working directory, the variables that the terminal looks at, and
its usual limits. -/
structure Executor where
  cwd : String
  home : Option String
  user : Option String
  hostname : Option String
  limits : Limits
deriving DecidableEq, Repr

/-- What may differ from one command to the next. -/
structure RunOptions where
  workingDirectory : Option String := none
  limits : Limits
deriving DecidableEq, Repr

namespace Executor

/-- An executor with the variables that a new session has. -/
def new (cwd home : String) (limits : Limits) : Executor :=
  ⟨cwd, some home, some "vibe-user", some "vibe-terminal", limits⟩

/-- The home directory; without one it is the root. -/
def homeDirectory (e : Executor) : String := e.home.getD "/"

/-- A path as `cd` takes it: `~` stands for the home directory, at the front of a path too. -/
def expandHome (home target : String) : String :=
  if target = "~" then home
  else match target.toList with
    | '~' :: '/' :: rest => Path.withoutEndSlashes home ++ "/" ++ String.ofList rest
    | _ => target

/-- A directory as it is shown: `~` stands for the home directory, at the front of a path too. -/
def abbreviateHome (home directory : String) : String :=
  let above := (Path.withoutEndSlashes home ++ "/").toList
  if directory = home then "~"
  else if above.isPrefixOf directory.toList then
    "~/" ++ String.ofList (directory.toList.drop above.length)
  else directory

/-- The directory that `cd` means by a path, as seen from `base`. -/
def resolveFrom (base home target : String) : String :=
  Path.normalize base (expandHome home target)

/-- The directory that `cd` means by a path. -/
def resolve (e : Executor) (target : String) : String := resolveFrom e.cwd e.homeDirectory target

/-- Goes to a directory without looking whether it is there. -/
def setCwd (e : Executor) (path : String) : Executor := { e with cwd := e.resolve path }

/-- Goes to a directory, home when none is named, if it is there. -/
def changeDirectory (e : Executor) (target base : String) : Dialogue (CommandResult × Executor) := do
  let target := if target = "" then "~" else target
  let resolved := resolveFrom base e.homeDirectory target
  if ← Dialogue.isDirectory resolved then
    return (.ok "", { e with cwd := resolved })
  else
    return (.failure ("cd: " ++ target ++ ": No such file or directory") 1, e)

/-- What follows `cd` in a command that is one. -/
def cdTarget? (trimmed : String) : Option String :=
  match trimmed.toList with
  | ['c', 'd'] => some ""
  | 'c' :: 'd' :: ' ' :: rest => some (Text.trim (String.ofList rest))
  | _ => none

/-- Runs a command unless the policy refuses it. -/
def execute (e : Executor) (command : String) (options : RunOptions) :
    Dialogue (CommandResult × Executor) :=
  match Policy.violation? command with
  | some violation => return (.failure violation.message CommandResult.blockedCode, e)
  | none =>
    let base := options.workingDirectory.getD e.cwd
    let trimmed := Text.trim command
    match cdTarget? trimmed with
    | some target => e.changeDirectory target base
    | none => do
      return (← Dialogue.runCommand ⟨trimmed, base, options.limits⟩, e)

/-- Runs a command within the usual limits. -/
def safeExecute (e : Executor) (command : String) : Dialogue (CommandResult × Executor) :=
  e.execute command { limits := e.limits }

end Executor

/-- The prompt: the working directory, with the home directory shown as `~`. -/
def prompt (cwd home : String) : String :=
  "user@vibe:" ++ Executor.abbreviateHome home cwd ++ "$ "

end PlainTerminal
