import PlainTerminal.Config
import PlainTerminal.Session

/-!
# Sessions by name

The sessions of a service. A session is there once somebody has asked for it; who gives no name, or
an empty one, gets the session `default`. On the user's own machine a new session starts where the
process was started, in the demo in the home directory of the configuration.
-/

namespace PlainTerminal

/-- Where a process was started, and its home directory. -/
structure StartPlace where
  directory : String
  home : Option String
deriving DecidableEq, Repr

/-- The sessions of a service, with what a new one is made of. -/
structure Sessions where
  environment : Environment
  config : Config
  start : StartPlace
  table : Keyed Session := []

namespace Sessions

/-- The session of those who give no name. -/
def defaultName : String := "default"

/-- The name of the session that a request is for. -/
def nameOf (id : Option String) : String :=
  match id with
  | none => defaultName
  | some id => if id = "" then defaultName else id

/-- The usual limits. -/
def limits (s : Sessions) : Limits := ⟨s.config.commandTimeoutMs, s.config.maxOutputBytes⟩

/-- The executor of a new session. -/
def newExecutor (s : Sessions) : Executor :=
  match s.environment.mode with
  | .localMachine =>
    .new s.start.directory (s.start.home.getD s.config.homeDirectory) s.limits
  | .remoteDemo => .new s.config.homeDirectory s.config.homeDirectory s.limits

/-- A new session. -/
def newSession (s : Sessions) (now : Timestamp) : Session :=
  .new s.newExecutor s.environment.mode now

/-- The session of a name, made if it is not there. -/
def getOrCreate (s : Sessions) (id : Option String) : Dialogue Session :=
  match Keyed.find? s.table (nameOf id) with
  | some session => return session
  | none => return s.newSession (← Dialogue.now)

/-- Puts a session under a name. -/
def insert (s : Sessions) (name : String) (session : Session) : Sessions :=
  { s with table := Keyed.insert s.table name session }

/-- Removes a session; whether it was there. -/
def remove (s : Sessions) (name : String) : Bool × Sessions :=
  ((Keyed.find? s.table name).isSome, { s with table := Keyed.erase s.table name })

/-- The number of sessions. -/
def size (s : Sessions) : Nat := s.table.length

/-- Lets something happen in the session of a name, which is made if it is not there. -/
def within {α : Type} (id : Option String) (action : Action α) : StateT Sessions Dialogue α := do
  let s ← get
  let session ← (s.getOrCreate id : Dialogue _)
  let (value, session) ← (action.run session : Dialogue _)
  set (s.insert (nameOf id) session)
  return value

end Sessions

end PlainTerminal
