import PlainTerminal.Model.Request
import PlainTerminal.Text.Blank

/-!
# What the model made of an input

The model answers a request in plain words with a JSON object: the commands to run, an explanation,
how sure it is, and whether the request needs several steps. The object may stand in the middle of
other text, its fields may be missing, and blank commands in it do not count.
-/

namespace PlainTerminal

/-- Commands for an input, with an explanation. -/
structure Interpretation where
  commands : List String
  explanation : String
  confidence : Float
  isComplex : Bool

namespace Interpretation

/-- Runs the input as it was typed. -/
def direct (input : String) : Interpretation :=
  ⟨[input], "AI unavailable - using direct command", 0, false⟩

/-- An apology, with nothing to run. -/
def unavailable : Interpretation where
  commands := []
  explanation := "Hey there! I'm Berto, your friendly terminal assistant. I'm temporarily having " ++
    "some issues, but you can still try direct terminal commands or ask me for help!"
  confidence := 0.8
  isComplex := false

/-- There is nothing to run. -/
def isConversational (i : Interpretation) : Bool := i.commands.isEmpty

/-- The object of an answer as it was sent. -/
structure Reply where
  commands : List String := []
  explanation : String := ""
  confidence : Option Float := none
  isComplex : Bool := false

/-- An answer as a JSON record. -/
def Reply.shape : Json.RecordShape Reply where
  name := "RawInterpretation"
  fields := [
    .optional "commands" (.list .string) fun r v => { r with commands := v },
    .optional "explanation" .string fun r v => { r with explanation := v },
    .optional "confidence" (.optional .float) fun r v => { r with confidence := v },
    .optional "isComplex" .bool fun r v => { r with isComplex := v }]

/-- Drops what stands before the first character of a kind. -/
def fromFirst (c : Char) (s : List Char) : List Char := s.dropWhile (· ≠ c)

/-- Drops what stands after the last character of a kind. -/
def toLast (c : Char) (s : List Char) : List Char := (fromFirst c s.reverse).reverse

/-- The part of a text from its first opening brace to its last closing one. -/
def objectIn? (text : List Char) : Option (List Char) :=
  match fromFirst '\x7b' text with
  | [] => none
  | opened =>
    match toLast '\x7d' opened with
    | [] => none
    | object => some object

/-- A number between zero and one; infinite ones count as zero. -/
def clampConfidence (x : Float) : Float :=
  if !x.isFinite then 0 else if x < 0 then 0 else if 1 < x then 1 else x

/-- The interpretation that an answer makes. -/
def ofReply (reply : Reply) : Interpretation :=
  let commands := (reply.commands.map Text.trim).filter (· ≠ "")
  { commands
    explanation := reply.explanation
    confidence := (reply.confidence.map clampConfidence).getD 0.5
    isComplex := 1 < commands.length || (reply.isComplex && !commands.isEmpty) }

/-- Reads an answer of the model. -/
def parse (text : String) : Except ModelError Interpretation :=
  match objectIn? text.toList with
  | none => .error (.malformed .noObject)
  | some object =>
    match Json.decodeText (Reply.shape.decoder .text {}) (String.ofList object) with
    | .error e => .error (.malformed (.undecodable e))
    | .ok reply => .ok (ofReply reply)

end Interpretation

/-- What is known about where an input was typed. -/
structure InterpretContext where
  currentDirectory : String := ""
  directoryContents : List String := []
  recentCommands : List String := []

namespace InterpretContext

/-- A context as a JSON record. -/
def shape : Json.RecordShape InterpretContext where
  name := "InterpretContext"
  fields := [
    .optional "currentDirectory" .string fun r v => { r with currentDirectory := v },
    .optional "directoryContents" (.list .string) fun r v => { r with directoryContents := v },
    .optional "recentCommands" (.list .string) fun r v => { r with recentCommands := v }]

/-- The last few elements of a list. -/
def lastOf (n : Nat) (items : List String) : List String := items.drop (items.length - n)

/-- What the model is told about a context. -/
def text (c : InterpretContext) : String :=
  (if c.currentDirectory = "" then ""
    else "Current Directory: " ++ c.currentDirectory ++ "\n") ++
  (if c.directoryContents = [] then ""
    else "Directory Contents: " ++ ", ".intercalate c.directoryContents ++ "\n") ++
  (if c.recentCommands = [] then ""
    else "Recent Commands: " ++ " → ".intercalate (lastOf 3 c.recentCommands) ++ "\n") ++
  "\nMatch any file or folder the user mentions to the closest name in Directory Contents.\n"

end InterpretContext

end PlainTerminal
