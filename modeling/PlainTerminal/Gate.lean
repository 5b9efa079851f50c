import PlainTerminal.Gate.Vocabulary
import PlainTerminal.Likeness.Match
import PlainTerminal.Text.Blank
import PlainTerminal.Text.Lowercase
import PlainTerminal.Text.WordChar

/-!
# The gate

Decides by fixed rules whether a line of input is a command to run as it stands or something for
the language model. Small talk is recognised by how the line begins, a request by how it begins, by
certain words in it or by a question mark at its end. What is neither is a command if its first
word is one and nothing in it sounds like a request; a line with any other first word is a request
only if it has the articles or prepositions of a sentence.
-/

namespace PlainTerminal

/-- What a line of input is. -/
inductive InputKind where
  | empty
  /-- Greetings, thanks, small talk. -/
  | conversational
  /-- A request in plain words. -/
  | naturalLanguage
  /-- Something to run as it is typed. -/
  | literal
deriving DecidableEq, Repr

/-- The input is for the language model. -/
def InputKind.needsInterpretation : InputKind → Bool
  | conversational | naturalLanguage => true
  | empty | literal => false

namespace Gate

/-- The text begins with one of the phrases. -/
def beginsWithAny (phrases : List String) (text : String) : Bool :=
  phrases.any fun p => p.toList.isPrefixOf text.toList

/-- One of the words occurs in the text as a whole word. -/
def mentionsAny (vocabulary : List String) (text : String) : Bool :=
  vocabulary.any fun w => Text.containsWord text w

/-- On its first line, after saying whose state it is, the text names one. -/
def saysHowIAm (text : String) : Bool :=
  aboutMyself.any fun p =>
    p.toList.isPrefixOf text.toList &&
      let line := (text.toList.drop p.toList.length).takeWhile (· ≠ '\n')
      states.any fun s => Likeness.occursIn s.toList line

/-- Small talk. -/
def isSmallTalk (text : String) : Bool := beginsWithAny smallTalk text || saysHowIAm text

/-- A request for something. -/
def isRequest (text : String) : Bool :=
  beginsWithAny requests text || mentionsAny requestWords text ||
    text.toList.getLast? == some '?'

/-- A word that names a command. -/
def isKnownCommand (word : String) : Bool := knownCommands.contains word

/-- A line of more than one word with an article or a preposition. -/
def isProse (text : String) : Bool :=
  text.toList.contains ' ' && (mentionsAny articles text || mentionsAny prepositions text)

/-- Sorts a trimmed text in lower case. -/
def classifyText (text : String) : InputKind :=
  if text = "" then .empty
  else if isSmallTalk text then .conversational
  else if isRequest text then .naturalLanguage
  else if isKnownCommand ((Text.words text).headD "") then
    if mentionsAny fillers text then .naturalLanguage else .literal
  else if isProse text then .naturalLanguage
  else .literal

/-- Sorts a line of input. -/
def classify (input : String) : InputKind := classifyText (Text.lowercase (Text.trim input))

end Gate

end PlainTerminal
