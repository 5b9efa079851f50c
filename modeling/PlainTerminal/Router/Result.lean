import PlainTerminal.Command.Result
import PlainTerminal.Model.Interpretation
import PlainTerminal.Tree

/-!
# Results of routing

What a routed command comes to, and what the whole of an input comes to.
-/

namespace PlainTerminal

/-- The outcome of a command, and whether it was simulated. -/
structure Outcome where
  result : CommandResult
  isSimulated : Bool
deriving DecidableEq, Repr

namespace Outcome

/-- An outcome that no real command had a part in. -/
def simulated (result : CommandResult) : Outcome := ⟨result, true⟩

/-- A simulated success. -/
def ok (stdout : String) : Outcome := simulated (.ok stdout)

/-- A simulated failure. -/
def failure (stderr : String) (exitCode : Int) : Outcome := simulated (.failure stderr exitCode)

end Outcome

/-- What a user is told about a command: its outcome, and where the terminal stands afterwards. -/
structure ExecutionResult where
  result : CommandResult
  currentDirectory : String
  isSimulated : Bool
deriving DecidableEq, Repr

namespace ExecutionResult

/-- The result for something that went wrong inside the terminal. -/
def internalError (cwd : String) : ExecutionResult :=
  ⟨.failure "Internal server error" 1, cwd, false⟩

/-- The command succeeded. -/
def success (r : ExecutionResult) : Bool := r.result.success

end ExecutionResult

/-- What can go wrong inside the terminal. -/
inductive RouteError where
  /-- The tree does not give what is asked of it. -/
  | tree (error : TreeError)
  /-- The tree has no challenge at this path. -/
  | missingChallenge (path : String)
deriving DecidableEq, Repr

/-- One command of an input, and its result. -/
structure Step where
  command : String
  result : ExecutionResult
deriving DecidableEq, Repr

/-- What an input comes to: the interpretation, if the language model was asked, and the commands
that were run. -/
structure Submission where
  interpretation : Option Interpretation := none
  steps : List Step := []

/-- The friendly answer to an input for which nothing was to be run. -/
def Submission.reply (s : Submission) : Option String :=
  match s.interpretation with
  | some i => if i.isConversational then some i.explanation else none
  | none => none

end PlainTerminal
