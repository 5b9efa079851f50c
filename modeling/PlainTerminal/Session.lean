import PlainTerminal.Challenge.Map
import PlainTerminal.Command.Quoted
import PlainTerminal.Executor
import PlainTerminal.Store

/-!
# A session

All that belongs to one user of the terminal: the executor with its working directory, the files,
the progress in the challenge, and the inputs so far. An `Action` is something that happens in a
session: it asks the outside what it needs to know and leaves the session changed.

Files are reached from here by the path that was typed. On the user's own machine every such
operation is one command of the real shell, with the path in double quotes; in the demo it is an
operation of the virtual store.
-/

namespace PlainTerminal

/-- What belongs to one user. -/
structure Session where
  executor : Executor
  store : Store
  progress : Challenge.Progress := {}
  history : List String := []

/-- Something that happens in a session. -/
abbrev Action (α : Type) := StateT Session Dialogue α

namespace Session

/-- A session around an executor, with the tree that every session starts with. -/
def new (executor : Executor) (mode : Mode) (now : Timestamp) : Session :=
  { executor, store := .new mode (Seed.tree now) }

/-! ## Inputs so far -/

/-- The number of inputs that a session keeps. -/
def historyLimit : Nat := 500

/-- Notes an input, trimmed; blank ones are not noted, and the oldest go when there are too many. -/
def record (s : Session) (input : String) : Session :=
  let input := Text.trim input
  if input = "" then s
  else
    let history := s.history ++ [input]
    { s with history := history.drop (history.length - historyLimit) }

/-- The last `n` inputs, oldest first. -/
def recent (s : Session) (n : Nat) : List String := s.history.drop (s.history.length - n)

/-! ## The working directory -/

/-- The working directory. -/
def cwd (s : Session) : String := s.executor.cwd

/-- The home directory. -/
def home (s : Session) : String := s.executor.homeDirectory

/-- Goes to a directory without looking whether it is there. -/
def setCwd (s : Session) (path : String) : Session :=
  { s with executor := s.executor.setCwd path }

/-- The place that a typed path means. -/
def placeOf (s : Session) (path : String) : String := Store.resolvePath path s.cwd s.home

/-- The terminal stands in the virtual tree: in the demo anywhere, and inside the challenge. -/
def inVirtualTree (s : Session) : Bool :=
  s.store.isSimulated || Challenge.contains s.cwd

/-! ## Files -/

/-- Runs a command within the usual limits. -/
def safeExecute (command : String) : Action CommandResult := do
  let s ← get
  let (result, executor) ← (s.executor.safeExecute command : Dialogue _)
  set { s with executor }
  return result

/-- Reads a file. -/
def contentOf (path : String) : Action FileResult := do
  let s ← get
  if s.store.isSimulated then return s.store.read path (s.placeOf path)
  else return .ofCommand (← safeExecute ("cat " ++ Quoted.quote path))

/-- Lists a directory, the working directory when none is named. -/
def listDirectory (path : String) (showHidden : Bool) : Action FileResult := do
  let s ← get
  if s.store.isSimulated then return s.store.list path (s.placeOf path) showHidden
  else
    let flags := if showHidden then "-la" else "-l"
    let target := if path = "" then "." else path
    return .ofCommand (← safeExecute ("ls " ++ flags ++ " " ++ Quoted.quote target))

/-- Writes a file. -/
def createFile (path content : String) : Action FileResult := do
  let s ← get
  if s.store.isSimulated then
    let now ← (Dialogue.now : Dialogue _)
    let (result, store) := s.store.createFile now (s.placeOf path) content
    set { s with store }
    return result
  else
    return .ofCommand
      (← safeExecute ("echo " ++ Quoted.quote content ++ " > " ++ Quoted.quote path))

/-- Makes a directory. -/
def createDirectory (path : String) : Action FileResult := do
  let s ← get
  if s.store.isSimulated then
    let now ← (Dialogue.now : Dialogue _)
    let (result, store) := s.store.createDirectory now path (s.placeOf path)
    set { s with store }
    return result
  else return .ofCommand (← safeExecute ("mkdir -p " ++ Quoted.quote path))

/-- Takes an upload in. -/
def upload (s : Session) (u : Upload) : Bool × Session :=
  let (stored, store) := s.store.upload u
  (stored, { s with store })

/-- Forgets the uploads. -/
def clearUploads (s : Session) : Session := { s with store := s.store.clearUploads }

end Session

end PlainTerminal
