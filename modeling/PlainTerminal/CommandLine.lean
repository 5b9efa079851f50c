import PlainTerminal.Router
import PlainTerminal.Sessions

/-!
# The command line

A conversation line by line: the greeting, then for every line of input the prompt and what the line
comes to, until the input ends or the user leaves. What is printed on either stream is computed
here; only reading and printing are left to the outside.
-/

namespace PlainTerminal.CommandLine

/-- What is printed on the two streams. -/
structure Output where
  stdout : String := ""
  stderr : String := ""
deriving DecidableEq, Repr

/-- One output after the other. -/
def Output.append (a b : Output) : Output := ⟨a.stdout ++ b.stdout, a.stderr ++ b.stderr⟩

instance : Append Output := ⟨Output.append⟩

/-- A line on the first stream. -/
def line (text : String) : Output := { stdout := text ++ "\n" }

/-- Clears the screen. -/
def clearScreen : Output := { stdout := "\x1b[2J\x1b[H" }

/-- What a command printed, ended by a line break. -/
def printed (stdout : String) : Output :=
  if stdout = Texts.clearSequence then clearScreen
  else if stdout = "" then {}
  else if stdout.toList.getLast? = some '\n' then { stdout }
  else line stdout

/-- What a command complained about, ended by one line break. -/
def complaint (stderr : String) : Output :=
  if stderr = "" then {} else { stderr := Text.trimEnd stderr ++ "\n" }

/-- A step, with its command if that is not what the user typed. -/
def ofStep (echo : Bool) (s : Step) : Output :=
  (if echo then line ("$ " ++ s.command) else {}) ++ printed s.result.result.stdout ++
    complaint s.result.result.stderr

/-- What a submission comes to on the screen. -/
def ofSubmission (s : Submission) : Output :=
  match s.reply with
  | some reply => line ("Berto: " ++ reply)
  | none =>
    let remark : Output := match s.interpretation with
      | some i => if 0 < i.confidence then line ("# " ++ i.explanation) else {}
      | none => {}
    let echo := 1 < s.steps.length || s.interpretation.isSome
    s.steps.foldl (fun out step => out ++ ofStep echo step) remark

/-- Words with which a user leaves. -/
def farewells : List String := ["exit", "quit", "logout"]

/-- What a line of input comes to; nothing when the user leaves. -/
def respond (router : Router) (input : String) : Action (Option Output) := do
  let input := Text.trim input
  if input = "" then return some {}
  else if farewells.contains input then return none
  else return some (ofSubmission (← router.submit input))

/-- The prompt of a session. -/
def promptOf (s : Session) : Output := { stdout := prompt s.cwd s.home }

/-- Said when the input is not text. -/
def notText : Output := { stderr := "vibe: stream did not contain valid UTF-8\n" }

/-- All that is printed for some lines of input, and the exit code; a line that is not text ends the
conversation. -/
def converse (router : Router) : List (Option String) → Action (Output × Nat)
  | [] => do return (promptOf (← get) ++ { stdout := "\n" }, 0)
  | none :: _ => do return (promptOf (← get) ++ notText, 1)
  | some input :: rest => do
    let shown := promptOf (← get)
    match ← respond router input with
    | none => return (shown, 0)
    | some output =>
      let (others, code) ← converse router rest
      return (shown ++ output ++ others, code)

/-- The lines of a string of bytes; a line that is not text has none. -/
def linesOf (bytes : List UInt8) : List (Option String) :=
  match (bytes.splitOn 10).reverse with
  | [] => []
  | last :: ended =>
    let pieces := ended.reverse ++ if last = [] then [] else [last]
    pieces.map fun piece => String.fromUTF8? ⟨piece.toArray⟩

/-- The sessions that a router is for: they are in its environment. -/
def sessionsOf (router : Router) (config : Config) (place : StartPlace) : Sessions :=
  { environment := router.environment, config, start := place }

/-- The router and the first session of a conversation. -/
def start (config : Config) (env : Variables) (place : StartPlace) (now : Timestamp) :
    Router × Session :=
  let router : Router :=
    { environment := Environment.choose config.mode env, recentCommands := config.recentCommands }
  (router, (sessionsOf router config place).newSession now)

/-- A whole conversation: what is printed, and the exit code. -/
def conversation (env : Variables) (directory : String) (input : List UInt8) :
    Dialogue (Output × Nat) := do
  let (router, session) := start (Config.ofVariables env) env
    ⟨directory, env "HOME"⟩ (← Dialogue.now)
  let ((output, code), _) ← (converse router (linesOf input)).run session
  return ({ stdout := Texts.banner } ++ output, code)

end PlainTerminal.CommandLine
