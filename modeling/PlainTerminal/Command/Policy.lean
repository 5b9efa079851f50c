import PlainTerminal.Likeness.Match
import PlainTerminal.Text.Blank
import PlainTerminal.Text.Lowercase

/-!
# What must never be run

A command that contains, letter case aside, one of a few dangerous phrases or the name of a
sensitive file is refused before anything runs.
-/

namespace PlainTerminal

/-- Why a command is refused, with the phrase that was found in it. -/
inductive PolicyViolation where
  | dangerous (phrase : String)
  | sensitiveFile (path : String)
deriving DecidableEq, Repr

namespace PolicyViolation

/-- The wording of a refusal. -/
def message : PolicyViolation → String
  | dangerous phrase =>
    "Dangerous command detected: \"" ++ phrase ++ "\". This command is blocked for safety."
  | sensitiveFile _ => "Access to sensitive system files is restricted."

/-- The phrase that was found. -/
def pattern : PolicyViolation → String
  | dangerous phrase => phrase
  | sensitiveFile path => path

end PolicyViolation

namespace Policy

/-- Phrases that must not reach a shell, the one looked for first in front. -/
def dangerousPhrases : List String := [
  "rm -rf /", "rm -fr /", "mkfs", "dd if=", "of=/dev/sd", "> /dev/sd", "fdisk", "parted",
  ":()\x7b :|:& \x7d;:", "sudo rm", "sudo dd", "sudo mkfs", "sudo fdisk", "shutdown", "reboot",
  "halt", "poweroff", "init 0", "init 6"]

/-- Files that must not be named. -/
def sensitiveFiles : List String := ["/etc/passwd", "/etc/shadow", "/etc/sudoers"]

/-- The first of some phrases that occurs in a text. -/
def firstIn (text : String) (phrases : List String) : Option String :=
  phrases.find? fun p => Likeness.occursIn p.toList text.toList

/-- What is wrong with a command. -/
def violation? (command : String) : Option PolicyViolation :=
  let text := Text.lowercase (Text.trim command)
  match firstIn text dangerousPhrases with
  | some phrase => some (.dangerous phrase)
  | none => (firstIn text sensitiveFiles).map .sensitiveFile

end Policy

end PlainTerminal
