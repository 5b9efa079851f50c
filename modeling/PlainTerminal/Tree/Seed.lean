import PlainTerminal.Tree.Listing
import PlainTerminal.Challenge.Story

/-!
# The tree that a terminal starts with

The virtual machine as a user first meets it: a home directory with a few notes, the challenge, a
corner of jokes and fortunes, and the usual system files.
-/

namespace PlainTerminal.Seed

/-- What greets a user at home. -/
def welcome : String := "Welcome to Berto's Vibe Terminal!

A terminal that understands plain English.
Just say what you want to do.

Quick start:
  ls        list files
  hack      start the hacker challenge
  joke      hear a joke
  fortune   get a fortune

Psst: 'ls -la' shows hidden files.

Have fun, there are surprises around.
"

/-- Things to try. -/
def notes : String := "# My Notes

- Try asking for things in plain English
- Build something cool with Berto
- Stop memorizing flags
- Found some odd directories on this box...
- Must look into it
"

/-- A diary that mentions the challenge. -/
def diary : String := "Dear Diary,

Found this terminal called Berto today.
People say there's a hacker game hidden somewhere.
The admin mumbled something about '/var/games'...

Going to check it out.
- User
"

/-- Start-up commands that nobody runs. -/
def bashrc : String := "# ~/.bashrc
alias ll='ls -la'
alias hack='cd /var/games && ./start_hack.sh'
echo 'Type hack to begin the adventure...'
"

/-- The password of the vault. -/
def secret : String := "Top secret note:
The vault password is C0D3R5_0NLY
But which vault?
"

/-- A picture. -/
def asciiArt : String := "RETRO ASCII ART

    ____            __
   / __ )___  _____/ /_____
  / __  / _ \\/ ___/ __/ __ \\
 / /_/ /  __/ /  / /_/ /_/ /
/_____/\\___/_/   \\__/\\____/

   [###]     \x7bo,o\x7d
   |---|     \\ _ /
   |[O]|      ) (
   |___|     _|_|_

Welcome to the retro zone!
"

/-- The jokes; each is a question and its answer. -/
def jokes : List String := [
  "Why do programmers prefer dark mode?\nBecause light attracts bugs!",
  "How many programmers does it take to change a light bulb?\nNone. That's a hardware problem!",
  "Why did the programmer quit the job?\nThey didn't get arrays!",
  "Where do programmers hang out after work?\nThe Foo Bar!",
  "Why do Java developers wear glasses?\nBecause they can't C#!"]

/-- The fortunes. -/
def fortunes : List String := [
  "The code you write today will compile on the first try.",
  "A bug you've been hunting will show itself before lunch.",
  "Your next pull request will be approved without comments.",
  "You will find an easter egg in your favorite app.",
  "Lucky numbers: 42, 1337, 404, 200."]

/-- A joke under its number, the answer on a line of its own. -/
def numberedJoke (number : Nat) (joke : String) : String :=
  "\n" ++ toString number ++ ". " ++
    String.join (joke.toList.map fun c => if c = '\n' then "\n   " else c.toString) ++ "\n"

/-- All jokes, in a file. -/
def jokesFile : String :=
  "PROGRAMMER JOKES\n" ++
    String.join (jokes.zipIdx.map fun (joke, i) => numberedJoke (i + 1) joke)

/-- Fortunes, in a file. -/
def fortuneFile : String := "YOUR FORTUNE TODAY

The code you write today will compile on the first try.
A bug you've been hunting will show itself before lunch.
Your next pull request will be approved without comments.

Lucky numbers: 42, 1337, 404, 200
Lucky color: terminal green
"

/-- The accounts of the virtual machine. -/
def passwd : String := "root:x:0:0:root:/root:/bin/bash
user:x:1000:1000:User:/home/user:/bin/bash
games:x:1001:1001:Game Master:/var/games:/bin/bash
hacker:x:1337:1337:Elite Hacker:/opt/hacker:/bin/zsh
"

/-- The message of the day. -/
def motd : String := "Welcome to Berto's virtual system!

Hidden games and secrets await.
Type 'hack' to start your adventure.
"

/-- A hidden find. -/
def mystery : String := "MYSTERY FILE

This file comes and goes...
You caught it at the right moment.

The real treasure was the commands we learned along the way.
"

/-- A file of the user. -/
def userFile (now : Timestamp) (content : String) : Node :=
  (Node.newFile now content).owned "user" "user"

/-- A directory of the user. -/
def userDirectory (now : Timestamp) (children : List (String × Node)) : Node :=
  ((Node.newDirectory now).owned "user" "user").withChildren children

/-- A directory of the system. -/
def systemDirectory (now : Timestamp) (children : List (String × Node)) : Node :=
  (Node.newDirectory now).withChildren children

/-- The home directory. -/
def home (now : Timestamp) : Node :=
  userDirectory now [
    ("welcome.txt", userFile now welcome),
    ("documents", userDirectory now [
      ("notes.md", userFile now notes),
      ("diary.txt", (userFile now diary).permitted "-rw-------")]),
    (".bashrc", userFile now bashrc),
    (".secret", (userFile now secret).permitted "-rw-------")]

/-- The corner of jokes. -/
def retro (now : Timestamp) : Node :=
  ((Node.newDirectory now).owned "games" "games").withChildren [
    ("ascii_art.txt", (Node.newFile now asciiArt).owned "games" "games"),
    ("jokes.txt", (Node.newFile now jokesFile).owned "games" "games"),
    ("fortune.txt", (Node.newFile now fortuneFile).owned "games" "games")]

/-- The whole tree at the start. -/
def tree (now : Timestamp) : Tree :=
  systemDirectory now [
    ("home", systemDirectory now [("user", home now)]),
    ("var", systemDirectory now [("games", Challenge.gamesTree now)]),
    ("opt", systemDirectory now [("retro", retro now)]),
    ("etc", systemDirectory now [
      ("passwd", Node.newFile now passwd), ("motd", Node.newFile now motd)]),
    ("tmp", ((Node.newDirectory now).permitted "drwxrwxrwt").withChildren [
      (".mystery", (userFile now mystery).permitted "-rw-rw-rw-")])]

end PlainTerminal.Seed
