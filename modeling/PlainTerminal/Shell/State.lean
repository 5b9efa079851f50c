import PlainTerminal.Machine.Activity
import PlainTerminal.Shell.Grammar

/-!
# The state of a shell

What a shell knows while it runs a script: variables, functions, positional parameters, the status of
the last command, and what it has been told to do on signals. What a shell does is put together of
parts, each a `Work`, and may stop on the way, because the shell ends or because something went
wrong.
-/

namespace PlainTerminal.Shell

/-- A variable. One that is marked but not set has no value. -/
structure Variable where
  value : Option String := none
  isExported : Bool := false
  isReadOnly : Bool := false
deriving DecidableEq, Repr

/-- What is switched on with `set`, by name. -/
structure Options where
  on : List String := []
deriving DecidableEq, Repr

namespace Options

/-- The names of what can be switched on, and the letters for it. -/
def names : List (String × Option Char) :=
  [("errexit", some 'e'), ("noglob", some 'f'), ("ignoreeof", some 'I'), ("interactive", some 'i'),
    ("monitor", some 'm'), ("noexec", some 'n'), ("stdin", some 's'), ("xtrace", some 'x'),
    ("verbose", some 'v'), ("vi", some 'V'), ("emacs", some 'E'), ("noclobber", some 'C'),
    ("allexport", some 'a'), ("notify", some 'b'), ("nounset", some 'u'), ("privileged", some 'p'),
    ("nolog", none), ("debug", none)]

/-- An option is on. -/
def isOn (o : Options) (name : String) : Bool := o.on.contains name

/-- Switches an option on or off. -/
def switched (o : Options) (name : String) (on : Bool) : Options :=
  let others := o.on.filter (· ≠ name)
  ⟨if on then name :: others else others⟩

/-- A status other than zero ends the shell. -/
def stopsOnFailure (o : Options) : Bool := o.isOn "errexit"

/-- A parameter that is not set has no value. -/
def demandsValues (o : Options) : Bool := o.isOn "nounset"

/-- Commands are written before they are run. -/
def isTracing (o : Options) : Bool := o.isOn "xtrace"

/-- No word is a pattern for file names. -/
def hasNoPatterns (o : Options) : Bool := o.isOn "noglob"

/-- The letters of what is on. -/
def letters (o : Options) : String :=
  String.ofList (names.reverse.filterMap fun n => if o.isOn n.1 then n.2 else none)

end Options

/-- How far `getopts` has come: the number of the argument that it looks at next, and how many
characters it has seen of the one before if there are more. -/
structure OptionPlace where
  index : Nat := 1
  offset : Option Nat := none
deriving DecidableEq, Repr

/-- What was there before something was changed for a while: variables as they were, and what was
switched on. -/
structure Scope where
  bindings : Keyed (Option Variable) := []
  options : Option Options := none

/-- Why a shell stops on the way. -/
inductive Departure where
  /-- The shell ends. -/
  | ending (status : Nat)
  /-- Something went wrong. That ends the shell as well, if no command of the shell takes it. -/
  | failure (status : Nat)
deriving DecidableEq, Repr

/-- The status with which a shell stops. -/
def Departure.status : Departure → Nat
  | ending status | failure status => status

/-- The state of a shell. -/
structure State where
  bindings : Keyed Variable := []
  functions : Keyed Command := []
  aliases : Keyed String := []
  /-- What was there before, for each command that changes something for a while. -/
  scopes : List Scope := []
  /-- The number of functions that the shell is in. -/
  depth : Nat := 0
  name : String := "sh"
  /-- The command of the shell in whose name it complains. -/
  speaker : Option String := none
  arguments : List String := []
  status : Nat := 0
  /-- The status of the last command whose output became part of a word. -/
  substitutionStatus : Option Nat := none
  number : Nat
  lastBackground : Option Nat := none
  /-- The tasks that were started in the background by the number of the job, the last one first. -/
  background : List (Nat × Nat) := []
  /-- The status that tasks in the background have left, as far as the shell knows. -/
  endings : List (Nat × Nat) := []
  /-- Where programs were found. -/
  tracked : Keyed String := []
  /-- What to do on a signal; zero stands for the end of the shell. -/
  traps : List (Signal × String) := []
  options : Options := {}
  line : Nat := 1
  /-- The number of loops that the shell is in. -/
  loops : Nat := 0
  /-- The permissions that new files do not get. -/
  mask : Nat := 18
  option : OptionPlace := {}
  /-- A command of the shell has written something that did not arrive. -/
  hasLostOutput : Bool := false

/-- A part of what a shell does. -/
abbrev Work := ExceptT Departure (StateT State Routine)

instance {α : Type} : Inhabited (Work α) := ⟨throw (.ending 0)⟩

namespace State

/-- The value of a variable. -/
def valueOf? (s : State) (name : String) : Option String :=
  (Keyed.find? s.bindings name).bind Variable.value

/-- The characters that cut fields. -/
def fieldSeparators (s : State) : List Char :=
  ((s.valueOf? "IFS").getD " \t\n").toList

/-- The value of a parameter that is one text. -/
def parameter? (s : State) (name : String) : Option String :=
  match name with
  | "?" => some (toString s.status)
  | "$" => some (toString s.number)
  | "#" => some (toString s.arguments.length)
  | "!" => s.lastBackground.map toString
  | "-" => some s.options.letters
  | "0" => some s.name
  | _ =>
    match name.toNat? with
    | some n => s.arguments[n - 1]?
    | none => s.valueOf? name

/-- Sets a variable without asking whether it may be set. Some variables say how the shell works. -/
def assigned (s : State) (name value : String) : State :=
  let old := (Keyed.find? s.bindings name).getD {}
  let isExported := old.isExported || s.options.isOn "allexport"
  { s with
    bindings := Keyed.insert s.bindings name { old with value := some value, isExported }
    tracked := if name = "PATH" then [] else s.tracked
    option := if name = "OPTIND" then ⟨max 1 (value.toNat?.getD 1), none⟩ else s.option }

/-- Changes the marks of a variable. -/
def marked (s : State) (name : String) (f : Variable → Variable) : State :=
  { s with bindings :=
      Keyed.insert s.bindings name (f ((Keyed.find? s.bindings name).getD {})) }

/-- The variables that programs get to see. -/
def environment (s : State) : Keyed String :=
  s.bindings.filterMap fun v =>
    if v.2.isExported then v.2.value.map fun value => (v.1, value) else none

/-- What a shell knows that is started as a part of another one. -/
def forSubshell (s : State) : State :=
  { s with traps := s.traps.filter (·.2 = ""), background := [], endings := [] }

/-- A task in the background gets the first number of a job that is not in use. -/
def withJob (s : State) (child : Nat) : State :=
  let used := s.background.map Prod.fst
  let number := ((List.range (used.length + 1)).map (· + 1)).find? fun n => !used.contains n
  { s with
    lastBackground := some child
    background := (number.getD 1, child) :: s.background }

/-- Forgets the first job that has been waited for: its place is wanted for another one. -/
def withoutOldJob (s : State) : State :=
  match s.background.reverse.find? fun j => (s.endings.lookup j.2).isSome with
  | some job => { s with background := s.background.filter (·.2 ≠ job.2) }
  | none => s

/-- A complaint with the name of the shell, the line, and the command that complains. -/
def complaint (s : State) (message : String) : String :=
  s.name ++ ": " ++ toString s.line ++ ": " ++ s.speaker.elim "" (· ++ ": ") ++ message

/-- Remembers in the innermost scope how a variable is now. -/
def remembered (s : State) (name : String) : State :=
  match s.scopes with
  | [] => s
  | scope :: outer =>
    if (Keyed.find? scope.bindings name).isSome then s
    else
      let bindings := Keyed.insert scope.bindings name (Keyed.find? s.bindings name)
      { s with scopes := { scope with bindings } :: outer }

/-- Brings back what was there before the scopes, until so many of them are left. -/
def unwound (s : State) (left : Nat) : State :=
  let inner := s.scopes.take (s.scopes.length - left)
  { s with
    scopes := s.scopes.drop (s.scopes.length - left)
    options := inner.foldl (fun options scope => scope.options.getD options) s.options
    bindings := inner.foldl (fun bindings scope =>
      scope.bindings.foldl (fun bindings v =>
        match v.2 with
        | some old => Keyed.insert bindings v.1 old
        | none => Keyed.erase bindings v.1) bindings) s.bindings }

end State

/-- Makes a call. -/
def call (c : Call) : Work c.Answer := liftM (Routine.perform c)

/-- Does a part of an activity. -/
def act {α : Type} (r : Routine α) : Work α := liftM r

/-- Sets the status of the last command. -/
def setStatus (status : Nat) : Work Unit := modify fun s => { s with status }

/-- Writes a complaint. -/
def complain (message : String) : Work Unit := do
  act (Routine.complain ((← get).complaint message))

/-- Stops because something went wrong. -/
def abort {α : Type} (message : String) : Work α := do
  complain message
  throw (.failure 2)

/-- Does something after a part of what a shell does, also if the shell stops in that part. -/
def followedBy {α : Type} (body : Work α) (after : Work Unit) : Work α := do
  let result ← tryCatch body fun departure => do
    after
    throw departure
  after
  return result

/-- Lets a command of the shell do the talking. -/
def speakingAs {α : Type} (name : String) (body : Work α) : Work α := do
  let before := (← get).speaker
  modify fun s => { s with speaker := some name }
  followedBy body (modify fun s => { s with speaker := before })

/-- Sets a variable. -/
def assign (name value : String) : Work Unit := do
  match Keyed.find? (← get).bindings name with
  | some v =>
    if v.isReadOnly then abort (name ++ ": is read only")
    else modify (·.assigned name value)
  | none => modify (·.assigned name value)

end PlainTerminal.Shell
