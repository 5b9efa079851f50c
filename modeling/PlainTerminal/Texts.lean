/-!
# Texts of the terminal

What the terminal says by itself: its greeting, its help, and its remarks.
-/

namespace PlainTerminal.Texts

/-- The greeting. -/
def banner : String := "Hi, I'm Berto, your AI terminal!
Terminal for humans. Say what you want in plain English.

Try 'help', 'ls', 'hack' or 'cat welcome.txt' to get going.
"

/-- The help. -/
def help : String := "BERTO VIBE TERMINAL - HELP

FILES
  ls [-la] [path]          list a directory (-a shows hidden files)
  cat <file>               print a file
  echo \"text\" > <file>     write a file (>> appends)
  mkdir <dir>              create a directory
  touch <file>             create an empty file
  cd <dir>                 change directory (.., ~ and absolute paths work)
  pwd                      show where you are

FUN
  hack                     start the cyber hack challenge
  hint                     get a nudge while inside the challenge
  joke                     hear a programmer joke
  fortune                  get your fortune
  clear                    clear the screen

EASTER EGGS
  Hidden files lurk in your home directory, try 'ls -la'.
  /opt/retro and /tmp hold a few surprises.

JUST ASK
  You don't need exact commands. Try 'show me all files',
  'make a folder called projects' or 'what's in the readme?'.
"

/-- Stands for an empty screen. -/
def clearSequence : String := "\x1b[CLEAR]"

/-- Added when a command is not there in the demo. -/
def remoteNote : String :=
  "Note: This is a read-only demo environment. Download the desktop app for full terminal " ++
    "access."

/-- Added when a command is not there inside the challenge. -/
def challengeNote : String :=
  "Note: You're inside the virtual challenge. Type 'cd ~' to get back to your real shell."

/-- The answer to a request for a hint outside the challenge. -/
def noHints : String := "No hints out here. Type 'hack' to start the challenge!\n"

end PlainTerminal.Texts
