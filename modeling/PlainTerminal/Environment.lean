import PlainTerminal.Text.Blank
import PlainTerminal.Text.Lowercase

/-!
# Where the terminal runs

On the user's own machine, with the real files and the real shell, or as a remote demo in
which everything happens in the virtual tree. The mode is forced by a setting or detected from the
variables of the process.
-/

namespace PlainTerminal

/-- What the terminal has access to. -/
inductive Mode where
  /-- The real files and the real shell. -/
  | localMachine
  /-- The virtual tree alone. -/
  | remoteDemo
deriving DecidableEq, Repr

/-- The mode that a setting names, letter case and blanks around it aside. -/
def Mode.ofSetting? (setting : String) : Option Mode :=
  let word := Text.asciiLowercase (Text.trim setting)
  if word = "local" then some .localMachine
  else if word = "remote" then some .remoteDemo
  else none

/-- Variables by name, as a process has them. -/
abbrev Variables := String → Option String

/-- The mode, and whether this is a remote deployment. -/
structure Environment where
  mode : Mode
  remoteDeployment : Bool
deriving DecidableEq, Repr

namespace Environment

/-- The user's own machine. -/
def ofLocal : Environment := ⟨.localMachine, false⟩

/-- A remote demo. -/
def ofRemote : Environment := ⟨.remoteDemo, true⟩

/-- The environment of a forced mode. -/
def ofMode : Mode → Environment
  | .localMachine => ofLocal
  | .remoteDemo => ofRemote

/-- The real files and the real shell are there. -/
def hasLocalFiles (e : Environment) : Bool := e.mode == .localMachine

/-- The environment that the variables of a process show. Without a forced mode it is the user's
machine unless the variables name a deployment or a stage other than development. -/
def detect (env : Variables) : Environment :=
  match (env "VIBE_MODE").bind Mode.ofSetting? with
  | some mode => ofMode mode
  | none =>
    let deployed := env "VERCEL" == some "1" || (env "VERCEL_ENV").isSome
    let developing := (env "NODE_ENV").all fun v => v == "" || v == "development"
    ⟨if !deployed && developing then .localMachine else .remoteDemo, deployed⟩

/-- The environment of a forced mode, else the detected one. -/
def choose (forced : Option Mode) (env : Variables) : Environment :=
  match forced with
  | some mode => ofMode mode
  | none => detect env

end Environment

end PlainTerminal
