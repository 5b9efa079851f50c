import PlainTerminal.Challenge.Progress
import PlainTerminal.Path

/-!
# The places of the challenge

The challenge lives in one directory. Its places are recognised by their canonical paths; one
subdirectory stays locked until all codes have been found.
-/

namespace PlainTerminal.Challenge

/-- Where the challenge lives. -/
def root : String := "/var/games"

/-- The file that holds the instructions. -/
def readmePath : String := "/var/games/README_HACK"

/-- The file that ends the challenge. -/
def victoryPath : String := "/var/games/victory.txt"

/-- The locked directory. -/
def lockedDirectory : String := "/var/games/level2"

/-- The path belongs to the challenge. -/
def contains (path : String) : Bool := Path.isWithin root path

/-- The path lies behind the lock. -/
def isLocked (path : String) : Bool := Path.isWithin lockedDirectory path

/-- The code that the file at a path reveals. -/
def codeAt (path : String) : Option AccessCode := AccessCode.all.find? fun c => c.source == path

/-- Directory changes with a fixed meaning inside the challenge; all others are resolved like any
path. -/
def transition (cwd target : String) : Option String :=
  let target := Path.withoutEndSlashes target
  if target = ".." then
    if contains cwd then some (Path.normalize cwd "..") else none
  else if (target = "intel" ∨ target = "vault" ∨ target = "level2") ∧ cwd = root then
    some (root ++ "/" ++ target)
  else none

/-- Why a place must not be entered. -/
structure Lock where
  found : Nat
deriving DecidableEq, Repr

/-- The wording of a refusal. -/
def Lock.message (lock : Lock) : String :=
  "Access denied. " ++ toString lock.found ++ " of " ++ toString AccessCode.all.length ++
    " codes found."

/-- The lock in the way of a player who wants to go to a path. -/
def lockAt (path : String) (progress : Progress) : Option Lock :=
  if isLocked path && !progress.hasAll then some ⟨progress.found.length⟩ else none

/-- What the last file shows: the ending, or the codes that are missing. Showing the ending
completes the challenge. -/
def readVictory (ending : String) (progress : Progress) : Except String String × Progress :=
  match progress.complete with
  | (true, progress) => (.ok ending, progress)
  | (false, progress) =>
    (.error ("ACCESS DENIED: victory.txt is encrypted.\nMissing codes: " ++
      ", ".intercalate (progress.missing.map AccessCode.label)), progress)

end PlainTerminal.Challenge
