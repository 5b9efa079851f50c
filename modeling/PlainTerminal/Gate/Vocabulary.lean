/-!
# The vocabulary of the gate

The words and phrases by which the gate tells conversation and requests from commands, all in lower
case.
-/

namespace PlainTerminal.Gate

/-- Commands that run as they are typed. -/
def knownCommands : List String := [
  "ls", "ll", "la", "dir", "cd", "pwd", "pushd", "popd", "cat", "less", "more", "head", "tail",
  "touch", "mkdir", "rmdir", "rm", "cp", "mv", "echo", "printf", "clear", "reset", "whoami", "id",
  "groups", "ps", "top", "htop", "jobs", "env", "printenv", "export", "set", "unset", "date",
  "cal", "uptime", "uname", "hostname", "arch", "history", "fc", "help", "man", "info", "exit",
  "logout", "quit", "explain", "suggest", "test", "yes", "no", "debug", "vibe", "find", "locate",
  "which", "whereis", "grep", "egrep", "fgrep", "sort", "uniq", "wc", "cut", "awk", "sed", "tar",
  "gzip", "gunzip", "zip", "unzip", "chmod", "chown", "chgrp", "df", "du", "free", "ping", "wget",
  "curl", "ssh", "scp", "rsync", "git", "npm", "node", "python", "pip", "make", "gcc", "g++",
  "javac", "java", "docker", "kubectl", "vim", "nano", "emacs", "code"]

/-- Beginnings of small talk: greetings, farewells, thanks, questions about oneself, regrets,
answers, and trials. -/
def smallTalk : List String := [
  "hi", "hello", "hey", "yo", "sup", "what's up", "whats up", "good morning", "good afternoon",
  "good evening", "howdy", "greetings", "bye", "goodbye", "see you", "later", "farewell", "peace",
  "peace out", "cya", "see ya", "thanks", "thank you", "thx", "ty", "appreciate", "great",
  "awesome", "cool", "nice", "sweet", "how are you", "how's it going", "hows it going",
  "what's new", "whats new", "how you doing", "sorry", "my bad", "oops", "whoops", "damn",
  "dammit", "yes", "yep", "yeah", "yup", "no", "nope", "nah", "maybe", "perhaps", "sure", "okay",
  "ok", "alright", "test", "testing", "hello world", "just testing"]

/-- Beginnings of a remark about oneself. -/
def aboutMyself : List String := ["i'm", "im", "i am"]

/-- How one may say that one is. -/
def states : List String :=
  ["good", "fine", "okay", "ok", "great", "awesome", "tired", "busy", "stressed"]

/-- Beginnings of a request. -/
def requests : List String := [
  "show", "list", "display", "find", "search", "get", "tell", "what", "where", "how", "can you",
  "please", "i want", "i need", "create", "make", "build", "generate", "add", "new", "delete",
  "remove", "rm", "del", "erase", "destroy", "help", "explain", "what does", "what is", "how to"]

/-- Words of a request that can stand anywhere: quantities, files and places. -/
def requestWords : List String := [
  "all", "every", "everything", "nothing", "anything", "something", "file", "files", "folder",
  "folders", "directories", "dir", "directory", "in", "from", "inside", "within", "containing",
  "with", "that have"]

/-- Words that make a request of a line that begins with a known command. -/
def fillers : List String := [
  "all", "every", "everything", "file", "files", "folder", "folders", "that", "which", "where",
  "containing", "with", "in", "from"]

/-- Articles and other words that point at a thing. -/
def articles : List String :=
  ["the", "a", "an", "this", "that", "these", "those", "my", "your", "our", "their"]

/-- Words that relate one thing to another. -/
def prepositions : List String :=
  ["in", "on", "at", "by", "for", "with", "from", "to", "of", "about", "under", "over"]

end PlainTerminal.Gate
