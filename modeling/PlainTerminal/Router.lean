import PlainTerminal.Assistant
import PlainTerminal.Gate
import PlainTerminal.Router.Redirect
import PlainTerminal.Router.Result
import PlainTerminal.Session
import PlainTerminal.Texts

/-!
# The router

Takes a command to whoever can carry it out: the challenge, the virtual store, the terminal itself
or the real shell. `route` handles one command; `submit` takes a line of input through the gate and,
where that says so, the language model, and routes the commands that come out, up to the first one
that fails.

A place of the challenge is recognised by its resolved path before anything is done with it, in
either mode. So the real shell never sees a path of the challenge, and what is behind the lock
cannot be reached by another spelling.
-/

namespace PlainTerminal

/-- How a router is set up. Its environment is that of the sessions which are made for it. When a
command is routed, it is the session that tells the mode. -/
structure Router where
  environment : Environment
  gate : String → InputKind := Gate.classify
  recentCommands : Nat := 5

namespace Router

/-! ## Reading files -/

/-- Reads one file of the challenge: `place` is its resolved path, `path` how it was asked for. -/
def catChallenge (path place : String) : Action Outcome := do
  let s ← get
  match Challenge.lockAt place s.progress with
  | some lock => return .failure ("cat: " ++ path ++ ": " ++ lock.message) 1
  | none =>
    if place = Challenge.readmePath then return .ok (← Assistant.challengeReadme)
    else if place = Challenge.victoryPath then
      let (shown, progress) := Challenge.readVictory Challenge.victory s.progress
      set { s with progress }
      match shown with
      | .ok text => return .ok text
      | .error refusal => return .failure refusal 1
    else match s.store.tree.contentOf place with
      | .error (.isADirectory _) => return .failure ("cat: " ++ path ++ ": Is a directory") 1
      | .error _ => return .failure ("cat: " ++ path ++ ": No such file or directory") 1
      | .ok text =>
        match Challenge.codeAt place with
        | none => return .ok text
        | some code =>
          let (fresh, progress) := s.progress.discover code
          set { s with progress }
          let ended := if text.toList.getLast? = some '\n' then text else text ++ "\n"
          return .ok (ended ++ progress.statusLine code fresh ++ "\n")

/-- Reads one file. -/
def catOne (path : String) : Action Outcome := do
  let place := (← get).placeOf path
  if Challenge.contains place then catChallenge path place
  else
    let result ← Session.contentOf path
    return ⟨result.toCommand, result.isSimulated⟩

/-- Reads files one after the other, and puts what they print together. -/
def catAll : List String → Action (List String × List String)
  | [] => return ([], [])
  | path :: rest => do
    let part := (← catOne path).result
    let (texts, errors) ← catAll rest
    return (part.stdout :: texts, if part.success then errors else part.stderr :: errors)

/-- Prints files. -/
def cat (rest : String) : Action Outcome := do
  let s ← get
  match Text.words rest with
  | [] => return ⟨.failure "cat: missing operand" 1, s.inVirtualTree⟩
  | [path] => catOne path
  | paths =>
    if s.inVirtualTree then
      let (texts, errors) ← catAll paths
      let stdout := String.join texts
      if errors = [] then return .ok stdout
      else return .simulated { CommandResult.failure ("\n".intercalate errors) 1 with stdout }
    else return ⟨← Session.safeExecute ("cat " ++ rest), false⟩

/-! ## Listing directories -/

/-- Lists a place of the challenge. -/
def lsChallenge (path place : String) (showHidden long : Bool) :
    Action (Except RouteError Outcome) := do
  let s ← get
  match Challenge.lockAt place s.progress with
  | some lock =>
    return .ok (.failure ("ls: cannot open directory '" ++ path ++ "': " ++ lock.message) 1)
  | none =>
    match s.store.tree.resolve place with
    | none =>
      let shown := if path = "" then "." else path
      return .ok (.failure ("ls: cannot access '" ++ shown ++ "': No such file or directory") 2)
    | some (.file a content) =>
      return .ok (.ok ((if long then Listing.ofNode path (.file a content) else path) ++ "\n"))
    | some (.directory _ _) =>
      match s.store.tree.entries place showHidden with
      | .error e => return .error (.tree e)
      | .ok entries =>
        if long then
          return .ok (.ok (Listing.withTotal (entries.map fun e => Listing.ofNode e.1 e.2)))
        else return .ok (.ok ("  ".intercalate (entries.map Prod.fst) ++ "\n"))

/-- Lists a directory. -/
def ls (rest : String) : Action (Except RouteError Outcome) := do
  let s ← get
  let words := Text.words rest
  let flags := words.filter Likeness.isFlag
  let showHidden := flags.any fun f => f.toList.contains 'a' || f.toList.contains 'A'
  let long := flags.any fun f => f.toList.contains 'l'
  let path := (words.filter fun w => !Likeness.isFlag w).headD ""
  let place := s.placeOf path
  if Challenge.contains place then lsChallenge path place showHidden long
  else if s.inVirtualTree then
    return .ok (.simulated (← Session.listDirectory path showHidden).toCommand)
  else
    return .ok ⟨← Session.safeExecute (if rest = "" then "ls" else "ls " ++ rest), false⟩

/-! ## Changing the directory -/

/-- The place that `cd` goes to. -/
def cdPlace (s : Session) (target : String) : String :=
  (Challenge.transition s.cwd target).getD (if target = "" then s.home else s.placeOf target)

/-- Goes to a directory of the virtual tree. -/
def cdVirtual (shown place : String) : Action Outcome := do
  let s ← get
  if s.store.tree.isDirectory place then
    set (s.setCwd place)
    return .ok ""
  else return .failure ("cd: " ++ shown ++ ": No such file or directory") 1

/-- Changes the directory. Out of the challenge the real shell is given the resolved path. -/
def cd (target : String) : Action Outcome := do
  let s ← get
  let shown := if target = "" then "~" else target
  let place := cdPlace s target
  if Challenge.contains place then
    match Challenge.lockAt place s.progress with
    | some lock => return .failure ("cd: " ++ shown ++ ": " ++ lock.message) 1
    | none => cdVirtual shown place
  else if s.store.isSimulated then cdVirtual shown place
  else
    let argument := if Challenge.contains s.cwd then place else target
    return ⟨← Session.safeExecute ("cd " ++ argument), false⟩

/-! ## Writing files -/

/-- Refuses to write to a place of the challenge. -/
def challengeRefusal (s : Session) (program path : String) : Option String :=
  if Challenge.contains (s.placeOf path) then
    some (program ++ ": cannot write '" ++ path ++ "': Permission denied")
  else none

/-- Writes a text to a file. Appending keeps what is there. -/
def redirect (command : String) (write : Redirect.Write) : Action Outcome := do
  let s ← get
  match challengeRefusal s "echo" write.path with
  | some refusal => return .failure refusal 1
  | none =>
    let text := Redirect.unquote write.text
    if s.store.isSimulated then
      let existing ← match write.operator with
        | .append => do pure ((← Session.contentOf write.path).content.getD "")
        | .overwrite => pure ""
      let result ← Session.createFile write.path (existing ++ text ++ "\n")
      return .simulated result.toCommand
    else match write.operator with
      | .append => return ⟨← Session.safeExecute command, false⟩
      | .overwrite => return ⟨(← Session.createFile write.path text).toCommand, false⟩

/-- Makes one directory; the error, if there is one. -/
def mkdirOne (path : String) : Action (Option String) := do
  match challengeRefusal (← get) "mkdir" path with
  | some refusal => return some refusal
  | none => return (← Session.createDirectory path).error

/-- Makes one file unless it can be read already; the error, if there is one. -/
def touchOne (path : String) : Action (Option String) := do
  match challengeRefusal (← get) "touch" path with
  | some refusal => return some refusal
  | none =>
    if (← Session.contentOf path).success then return none
    else return (← Session.createFile path "").error

/-- Does something with every operand that is no option, and puts the errors together. -/
def forOperands (program rest : String) (one : String → Action (Option String)) :
    Action CommandResult := do
  match (Text.words rest).filter fun w => !Likeness.isFlag w with
  | [] => return .failure (program ++ ": missing operand") 1
  | paths =>
    let errors := (← paths.mapM one).filterMap id
    if errors = [] then return .ok "" else return .failure ("\n".intercalate errors) 1

/-! ## The challenge and other amusements -/

/-- A hint, inside the challenge. -/
def hint : Action Outcome := do
  let s ← get
  if Challenge.contains s.cwd then
    return .ok ((← Assistant.challengeHint s.progress) ++ "\n")
  else return .ok Texts.noHints

/-- Starts the challenge. -/
def hack : Action (Except RouteError Outcome) := do
  if !(← get).store.tree.isDirectory Challenge.root then
    return .error (.missingChallenge Challenge.root)
  else
    let introduction ← Assistant.challengeIntro
    modify fun s => { s with progress := s.progress.start }.setCwd Challenge.root
    return .ok (.ok (Challenge.briefing introduction))

/-- One of some texts, as chance has it. -/
def amuse (pool : List String) : Action Outcome := do
  return .ok ((← Dialogue.choose pool) ++ "\n")

/-! ## Commands of the virtual machine -/

/-- Carries out a command that the virtual machine has. -/
def simulatedBuiltin? (program rest : String) : Option (Action CommandResult) :=
  match program with
  | "pwd" => some do return .ok ((← get).cwd ++ "\n")
  | "whoami" => some do return .ok ((← get).executor.user.getD "" ++ "\n")
  | "hostname" => some do return .ok ((← get).executor.hostname.getD "" ++ "\n")
  | "date" => some do return .ok ((← (Dialogue.now : Dialogue _)).longText ++ "\n")
  | "echo" => some do return .ok (Redirect.unquote rest ++ "\n")
  | "mkdir" => some (forOperands "mkdir" rest mkdirOne)
  | "touch" => some (forOperands "touch" rest touchOne)
  | _ => none

/-- Carries out a command in the virtual machine, or says that it is not there. -/
def runVirtual (program rest command : String) : Action Outcome := do
  match simulatedBuiltin? program rest with
  | some action => return .simulated (← action)
  | none =>
    match Policy.violation? command with
    | some violation => return .failure violation.message CommandResult.blockedCode
    | none =>
      let note := if (← get).store.isSimulated then Texts.remoteNote else Texts.challengeNote
      return .failure ("bash: " ++ program ++ ": command not found\n" ++ note) 127

/-! ## Routing -/

/-- Takes a trimmed command that writes no file to whoever carries it out. -/
def dispatchProgram (program rest command : String) : Action (Except RouteError Outcome) := do
  match program with
  | "help" => return .ok (.ok Texts.help)
  | "clear" => return .ok (.ok Texts.clearSequence)
  | "hint" => return .ok (← hint)
  | "hack" => hack
  | "joke" => return .ok (← amuse Seed.jokes)
  | "fortune" => return .ok (← amuse Seed.fortunes)
  | _ =>
    if (← get).inVirtualTree then return .ok (← runVirtual program rest command)
    else return .ok ⟨← Session.safeExecute command, false⟩

/-- Takes a trimmed command to whoever carries it out. -/
def dispatch (command : String) : Action (Except RouteError Outcome) := do
  let (program, rest) := Text.splitAtBlank command
  match program with
  | "cat" => return .ok (← cat rest)
  | "ls" => ls rest
  | "cd" => return .ok (← cd rest)
  | _ =>
    match Redirect.parse? command with
    | some write => return .ok (← redirect command write)
    | none => dispatchProgram program rest command

/-- Goes to the directory that a request names, if it names one. -/
def enter (workingDirectory : Option String) : Action Unit :=
  match workingDirectory with
  | none => pure ()
  | some directory => if directory = "" then pure () else modify fun s => s.setCwd directory

/-- Routes a command, from another directory if one is named; something that goes wrong inside the
terminal is an error. -/
def tryRoute (command : String) (workingDirectory : Option String) :
    Action (Except ExecutionResult ExecutionResult) := do
  enter workingDirectory
  match ← dispatch (Text.trim command) with
  | .ok outcome => return .ok ⟨outcome.result, (← get).cwd, outcome.isSimulated⟩
  | .error _ => return .error (.internalError (← get).cwd)

/-- Routes a command. -/
def route (command : String) (workingDirectory : Option String) : Action ExecutionResult := do
  match ← tryRoute command workingDirectory with
  | .ok result => return result
  | .error result => return result

/-! ## Lines of input -/

/-- Words with which the terminal answers by itself. -/
def builtins : List String := ["help", "hint", "hack", "joke", "fortune", "clear"]

/-- The first word of an input is one with which the terminal answers by itself. -/
def isBuiltin (input : String) : Bool :=
  builtins.contains (Text.lowercase ((Text.words input).headD ""))

/-- The names in the directory where the terminal stands. -/
def directoryNames (s : Session) : Dialogue (List String) :=
  if s.inVirtualTree then
    match s.store.tree.entries s.cwd true with
    | .ok entries => return entries.map Prod.fst
    | .error _ => return []
  else Dialogue.listDirectory s.cwd

/-- What the language model is told about a session. -/
def context (router : Router) (s : Session) : Dialogue InterpretContext := do
  let names ← directoryNames s
  return {
    currentDirectory := s.cwd
    directoryContents := names.mergeSort fun a b => decide (a ≤ b)
    recentCommands := s.recent router.recentCommands }

/-- The commands for an input: those of the language model if the gate sends the input there, else
the input itself. -/
def commandsFor (router : Router) (s : Session) (input : String) :
    Dialogue (Option Interpretation × List String) := do
  if !isBuiltin input && (router.gate input).needsInterpretation then
    let i ← Assistant.interpret input (some (← router.context s))
    return (some i, i.commands)
  else return (none, [input])

/-- Routes commands up to the first one that fails. -/
def runSteps : List String → Action (List Step)
  | [] => return []
  | command :: rest => do
    let result ← route command none
    if result.success then return ⟨command, result⟩ :: (← runSteps rest)
    else return [⟨command, result⟩]

/-- Takes a line of input from the gate to its results. -/
def submit (router : Router) (input : String) : Action Submission := do
  let input := Text.trim input
  if input = "" then return {}
  else
    let (interpretation, commands) ← (router.commandsFor (← get) input : Dialogue _)
    modify fun s => s.record input
    return { interpretation, steps := ← runSteps commands }

end Router

end PlainTerminal
