import PlainTerminal.Tools.Places
import PlainTerminal.Tools.Search

/-!
# The programs of the machine

Every program by its name. Programs that start other programs are not among them; the shell takes
care of those.
-/

namespace PlainTerminal.Tools

open Routine

/-- Does nothing, and succeeds. -/
def succeed : Tool := fun _ => return 0

/-- Does nothing, and fails. -/
def fail : Tool := fun _ => return 1

/-- Writes its arguments. -/
def echo : Tool := fun i => do
  discard (emitBytes 1 (Shell.Format.echo i.arguments))
  return 0

/-- Writes its arguments in a format. -/
def printf : Tool := fun i => do
  match i.arguments with
  | [] => missingOperand i
  | format :: arguments =>
    let (bytes, complaints) := Shell.Format.printf format arguments
    discard (emitBytes 1 bytes)
    for c in complaints do
      complain (i.name ++ ": " ++ c.message)
    return if complaints = [] then 0 else 1

/-- Writes the working directory. -/
def pwd : Tool := fun _ => do
  let here : String ← perform .directory
  say (here ++ "\n")
  return 0

/-- Writes variables. -/
def printenv : Tool := fun i => do
  match i.arguments with
  | [] =>
    for (name, value) in i.environment do
      say (name ++ "=" ++ value ++ "\n")
    return 0
  | names => forOperands names fun name => do
      match Keyed.find? i.environment name with
      | some value =>
        say (value ++ "\n")
        return true
      | none => return false

/-- Writes the name of the user. -/
def whoami : Tool := fun _ => do
  say "root\n"
  return 0

/-- Writes what kind of machine this is. -/
def uname : Tool := fun _ => do
  say "Linux\n"
  return 0

/-- The programs by name. -/
def table : List (String × Tool) :=
  [("cat", cat), ("tee", tee), ("yes", yes), ("head", head), ("tail", tail), ("wc", wc), ("tr", tr),
    ("sleep", sleep), ("sort", sort), ("uniq", uniq), ("cut", cut), ("rev", rev), ("tac", tac),
    ("seq", seq), ("basename", basename), ("dirname", dirname), ("expr", expr), ("grep", grep),
    ("egrep", grep), ("sed", sed), ("ls", ls), ("mkdir", mkdir), ("rmdir", rmdir), ("rm", rm),
    ("touch", touch), ("cp", cp), ("mv", mv), ("true", succeed), ("false", fail), ("echo", echo),
    ("printf", printf), ("pwd", pwd), ("printenv", printenv), ("whoami", whoami),
    ("uname", uname), ("sync", succeed), ("chmod", succeed)]

/-- The program with a name. -/
def find? (name : String) : Option Tool := table.lookup name

end PlainTerminal.Tools
