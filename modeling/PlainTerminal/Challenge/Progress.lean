/-!
# How far a player has come

The challenge hides three access codes. A player's progress is which of them have been found and
the objective that is shown. Finding a code moves the objective to the first code still missing, or
to the last chapter when none is; the challenge can be completed only with all three codes in hand.
-/

namespace PlainTerminal.Challenge

/-- The three codes, in the order of the chapters. -/
inductive AccessCode where
  | intel
  | matrix
  | vault
deriving DecidableEq, Repr

namespace AccessCode

/-- All codes, in order. -/
def all : List AccessCode := [intel, matrix, vault]

/-- How a code is called. -/
def label : AccessCode → String
  | intel => "CODE_1"
  | matrix => "CODE_2"
  | vault => "CODE_3"

/-- What a code reads. -/
def value : AccessCode → String
  | intel => "ALPHA_SEVEN_NINE"
  | matrix => "BETAXYZE EIGHTFOUREX"
  | vault => "FIRE_MASTER"

/-- The file whose reading reveals a code. -/
def source : AccessCode → String
  | intel => "/var/games/intel/mission1.txt"
  | matrix => "/var/games/matrix.dat"
  | vault => "/var/games/vault/treasure.txt"

end AccessCode

/-- The objective of a player. -/
inductive Stage where
  | notStarted
  | intel
  | matrix
  | vault
  | levelTwo
  | complete
deriving DecidableEq, Repr

namespace Stage

/-- The stage at which a code is looked for. -/
def ofCode : AccessCode → Stage
  | .intel => intel
  | .matrix => matrix
  | .vault => vault

/-- The order of the chapters. -/
def rank : Stage → Nat
  | notStarted => 0
  | intel => 1
  | matrix => 2
  | vault => 3
  | levelTwo => 4
  | complete => 5

end Stage

/-- A player's progress. -/
structure Progress where
  stage : Stage := .notStarted
  intel : Bool := false
  matrix : Bool := false
  vault : Bool := false
deriving DecidableEq, Repr

namespace Progress

/-- The code has been found. -/
def has (p : Progress) : AccessCode → Bool
  | .intel => p.intel
  | .matrix => p.matrix
  | .vault => p.vault

/-- The codes found, in order. -/
def found (p : Progress) : List AccessCode := AccessCode.all.filter p.has

/-- The codes still missing, in order. -/
def missing (p : Progress) : List AccessCode := AccessCode.all.filter fun c => !p.has c

/-- All codes have been found. -/
def hasAll (p : Progress) : Bool := p.intel && p.matrix && p.vault

/-- Begins the challenge, unless it has begun. -/
def start (p : Progress) : Progress :=
  if p.stage = .notStarted then { p with stage := .intel } else p

/-- Notes a code as found. -/
def record (p : Progress) : AccessCode → Progress
  | .intel => { p with intel := true }
  | .matrix => { p with matrix := true }
  | .vault => { p with vault := true }

/-- Moves the objective to the first missing code. A completed challenge stays completed. -/
def advance (p : Progress) : Progress :=
  if p.stage = .complete then p
  else match p.missing with
    | code :: _ => { p with stage := .ofCode code }
    | [] => { p with stage := .levelTwo }

/-- Finds a code: the progress afterwards, and whether the code was new. -/
def discover (p : Progress) (code : AccessCode) : Bool × Progress :=
  (!p.has code, (p.record code).advance)

/-- Ends the challenge; refused while a code is missing. -/
def complete (p : Progress) : Bool × Progress :=
  if p.hasAll then (true, { p with stage := .complete }) else (false, p)

/-- What the player is after. -/
def objective (p : Progress) : String :=
  match p.stage with
  | .notStarted => "start the challenge with the 'hack' command"
  | .intel => "find CODE_1 in the intel directory"
  | .matrix => "decode matrix.dat to find CODE_2"
  | .vault => "get into the vault and find CODE_3"
  | .levelTwo => "read the transmission in level2, then victory.txt"
  | .complete => "nothing left, the challenge is beaten"

/-- The hint given when no model is there to write one. -/
def fallbackHint (p : Progress) : String :=
  match p.stage with
  | .notStarted => "Type 'hack' to begin the adventure."
  | .intel =>
    "Try 'cd intel' and read the mission files. 'ls -la' reveals what's hidden."
  | .matrix => "matrix.dat is binary: every group of 8 bits is one ASCII letter."
  | .vault =>
    "The vault password sits in a dot-file in your home directory. Look inside the vault for " ++
      "treasure."
  | .levelTwo =>
    "You hold all three codes. 'cd level2' is open now, and victory.txt awaits."
  | .complete => "You've beaten it! Take a break in /opt/retro."

/-- How many of the codes have been found, as in `2/3`. -/
def tally (p : Progress) : String :=
  toString p.found.length ++ "/" ++ toString AccessCode.all.length

/-- The line under a file that revealed a code. -/
def statusLine (p : Progress) (code : AccessCode) (fresh : Bool) : String :=
  "[+] " ++ code.label ++ " " ++ (if fresh then "recorded" else "already recorded") ++
    " (" ++ p.tally ++ ")"

end Progress

end PlainTerminal.Challenge
