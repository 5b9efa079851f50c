import PlainTerminal.Challenge.Progress
import PlainTerminal.Text.Blank
import PlainTerminal.Tree.Node

/-!
# The files of the challenge

The texts that a player reads, and the directory that holds them. Three of the files reveal an
access code; one of them gives it in binary, eight bits to a letter.
-/

namespace PlainTerminal.Challenge

/-- The opening when no model is there to write one. -/
def fallbackIntro : String := "You've slipped past the firewall and into the mainframe.
Somewhere in here are three access codes. Find them before the sysadmin notices."

/-- The instructions when no model is there to write them. -/
def instructions : String := "HACKER CHALLENGE INSTRUCTIONS

1. INTEL GATHERING
   - cd into 'intel'
   - read every intelligence file
   - find CODE_1

2. MATRIX DECODING
   - open 'matrix.dat'
   - decode the pattern to find CODE_2

3. VAULT CRACKING
   - enter the 'vault'
   - read what's inside for CODE_3

With all 3 codes, 'level2' unlocks. Then read 'victory.txt'!

HINTS
- 'ls -la' shows hidden files
- 'hint' gives a nudge for your current step
- the vault password was mentioned somewhere at home...
"

/-- The file that holds the first code. -/
def missionReport : String := "CLASSIFIED INTEL - MISSION 1

Agent report:
Infiltration successful. Evidence found of...

[REDACTED]

CODE_1: ALPHA_SEVEN_NINE

Proceed to the next phase immediately.
"

/-- What the guards wrote down. -/
def securityLog : String := "SECURITY BREACH LOG

2024-01-15 23:42:01 - unauthorized access attempt
2024-01-15 23:42:15 - firewall bypassed
2024-01-15 23:42:33 - someone is getting close...
2024-01-15 23:42:45 - they're in the system!

WARNING: intruder still active on the network
"

/-- A hidden file among the intelligence. -/
def classified : String := "TOP SECRET

Project codename: VIBE_TERMINAL
Status: ACTIVE
Agent: Berto
Mission: make terminals fun again
"

/-- The riddle at the door of the vault. -/
def vaultAccess : String := "VAULT ACCESS GRANTED

Welcome, authorized user. Password accepted: C0D3R5_0NLY

FINAL RIDDLE:
  I am not alive, but I grow;
  I have no lungs, but I need air;
  I have no mouth, but water kills me.
  What am I?

The answer is written on the treasure.
"

/-- The file that holds the third code. -/
def treasure : String := "VAULT TREASURE

You found the treasure!

CODE_3: FIRE_MASTER

(The riddle's answer was 'fire'.)
"

/-- What waits behind the lock. -/
def transmission : String := "INCOMING TRANSMISSION - LEVEL 2

Agent, the three codes check out.
ALPHA_SEVEN_NINE / BETAXYZE EIGHTFOUREX / FIRE_MASTER

The mainframe is yours. Report to victory.txt for debriefing.
"

/-- What a player with all codes reads at the end. -/
def victory : String := "CONGRATULATIONS, HACKER!

You completed the Cyber Hack Challenge!

  CODE_1: ALPHA_SEVEN_NINE      (intel)
  CODE_2: BETAXYZE EIGHTFOUREX  (matrix)
  CODE_3: FIRE_MASTER           (vault)

ACHIEVEMENT UNLOCKED: Master Hacker

Want more? Visit /opt/retro.
- The Berto Game Master
"

/-- The opening of the challenge around an introduction. -/
def briefing (introduction : String) : String :=
  "======================================\n" ++
  "      CYBER HACK CHALLENGE\n" ++
  "    UNAUTHORIZED ACCESS DETECTED\n" ++
  "======================================\n\n" ++
  Text.trim introduction ++
  "\n\nMISSION: recover the 3 hidden access codes\n" ++
  "  1. Gather intel in the 'intel' directory\n" ++
  "  2. Decode the 'matrix.dat' file\n" ++
  "  3. Crack the 'vault'\n\n" ++
  "Type 'cat README_HACK' for instructions, or 'hint' when stuck.\n" ++
  "Good luck, hacker!\n"

/-- The eight bits of a byte, highest first. -/
def bits (byte : UInt8) : String :=
  String.ofList ((List.range 8).map fun i => if byte.toNat.testBit (7 - i) then '1' else '0')

/-- A list cut into rows of four. -/
def rowsOfFour {α : Type} : List α → List (List α)
  | a :: b :: c :: d :: rest => [a, b, c, d] :: rowsOfFour rest
  | [] => []
  | rest => [rest]

/-- A text in binary, four letters to a line. -/
def inBinary (text : String) : String :=
  "\n".intercalate ((rowsOfFour (text.toUTF8.toList.map bits)).map (" ".intercalate ·))

/-- The file that holds the second code. -/
def matrixFile : String :=
  "MATRIX DECODING CHALLENGE\n\n" ++ inBinary AccessCode.matrix.value ++
    "\n\nHINT: this is binary.\nHINT: 8 bits = 1 letter.\n" ++
    "Convert to ASCII to reveal CODE_2.\n"

/-- A file of the challenge. -/
def gameFile (now : Timestamp) (content : String) : Node :=
  (Node.newFile now content).owned "games" "games"

/-- A directory of the challenge. -/
def gameDirectory (now : Timestamp) (children : List (String × Node)) : Node :=
  ((Node.newDirectory now).owned "games" "games").withChildren children

/-- The directory of the challenge. -/
def gamesTree (now : Timestamp) : Node :=
  gameDirectory now [
    ("start_hack.sh",
      (gameFile now ("#!/bin/bash\n\n" ++ briefing fallbackIntro)).permitted "-rwxr-xr-x"),
    ("README_HACK", gameFile now instructions),
    ("intel", gameDirectory now [
      ("mission1.txt", gameFile now missionReport),
      ("security_log.txt", gameFile now securityLog),
      (".classified", (gameFile now classified).permitted "-rw-------")]),
    ("matrix.dat", gameFile now matrixFile),
    ("vault", (gameDirectory now [
      ("access.txt", (gameFile now vaultAccess).permitted "-rw-------"),
      ("treasure.txt", gameFile now treasure)]).permitted "drwx------"),
    ("level2", (gameDirectory now [
      ("transmission.txt", gameFile now transmission)]).permitted "drwx------"),
    ("victory.txt", gameFile now victory)]

end PlainTerminal.Challenge
