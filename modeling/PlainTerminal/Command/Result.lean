/-!
# What a command leaves behind

The outcome of a command: what it printed on its two streams, its exit code, and whether it counts
as a success. A failure is sorted by its exit code and, for a missing directory, by how its message
begins.
-/

namespace PlainTerminal

/-- The outcome of a command. -/
structure CommandResult where
  stdout : String := ""
  stderr : String := ""
  exitCode : Int := 0
  success : Bool := true
deriving DecidableEq, Repr

/-- The kinds of failure. -/
inductive FailureKind where
  | blocked
  | noSuchDirectory
  | timeout
  | nonZeroExit
  | internal
deriving DecidableEq, Repr

namespace CommandResult

/-- The exit code of a command that ran out of time. -/
def timeoutCode : Int := 124

/-- The exit code of a command that is not allowed. -/
def blockedCode : Int := 126

/-- A success that printed a text. -/
def ok (stdout : String) : CommandResult := { stdout }

/-- A failure that printed a message. -/
def failure (stderr : String) (exitCode : Int) : CommandResult :=
  { stderr, exitCode, success := false }

/-- Why the command failed, if it did. -/
def failureKind (r : CommandResult) : Option FailureKind :=
  if r.success then none
  else if r.exitCode = blockedCode then some .blocked
  else if r.exitCode = timeoutCode then some .timeout
  else if r.exitCode = 1 ∧ "cd: ".toList.isPrefixOf r.stderr.toList = true then
    some .noSuchDirectory
  else if r.exitCode = 0 then some .internal
  else some .nonZeroExit

/-- A result whose success is told by its exit code. -/
def IsCoherent (r : CommandResult) : Prop := r.success = decide (r.exitCode = 0)

end CommandResult

end PlainTerminal
