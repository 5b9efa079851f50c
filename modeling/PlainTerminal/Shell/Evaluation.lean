import PlainTerminal.Shell.Builtins

/-!
# Running shell commands

Commands are carried out one after the other in the state of the shell. The stages of a pipeline,
commands in the background, subshells, and commands whose output becomes part of a word are tasks of
their own, which start with a copy of that state. Programs are tasks as well.

The functions call each other as commands nest and as loops go round; the number that they carry
bounds how often. It is `Routine.endless` at first, and every command takes a moment, so it is never
used up before the time is.
-/

namespace PlainTerminal.Shell

open Builtin (finish await)

/-- What a line of a shell has to say about a command that is not there. -/
abbrev Absence := String → String

/-- The words for a fault in opening a file. -/
def openingMessage (path : String) (mode : OpenMode) (fault : Fault) : String :=
  let (verb, missing) := match mode with
    | .read => ("open", "No such file")
    | _ => ("create", "Directory nonexistent")
  "cannot " ++ verb ++ " " ++ path ++ ": " ++
    (if fault = .notFound ∨ fault = .notDirectory then missing else fault.message)

/-- Puts descriptors back to what they stood for. -/
def restore (saved : List (Nat × Option Nat)) : Work Unit := do
  for (descriptor, copy) in saved do
    match copy with
    | some copy =>
      discard (call (.duplicate copy descriptor))
      discard (call (.close copy))
    | none => discard (call (.close descriptor))

/-- Gives up the copies of what descriptors stood for. -/
def forget (saved : List (Nat × Option Nat)) : Work Unit := do
  for (_, copy) in saved do
    match copy with
    | some copy => discard (call (.close copy))
    | none => pure ()

/-- Makes a descriptor stand for what another one stands for, and closes that. -/
def moveDescriptor (source target : Nat) : Work Unit := do
  if source ≠ target then
    discard (call (.duplicate source target))
    discard (call (.close source))

/-- Carries out a redirection to a text. The result is a message if that was not possible. -/
def redirectTo (descriptor : Nat) (kind : RedirectionKind) (target : String) :
    Work (Option String) := do
  let opened (mode : OpenMode) : Work (Option String) := do
    match ← call (.openFile target mode) with
    | .ok source =>
      moveDescriptor source descriptor
      return none
    | .error fault => return some (openingMessage target mode fault)
  match kind with
  | .input => opened .read
  | .output =>
    if (← get).options.isOn "noclobber" then
      match ← call (.look target) with
      | .ok (.file _) => return some ("cannot create " ++ target ++ ": File exists")
      | .ok .directory => return some ("cannot open " ++ target ++ ": Is a directory")
      | _ => opened .write
    else opened .write
  | .overwrite => opened .write
  | .append => opened .append
  | .both => opened .readWrite
  | .duplicate =>
    if target = "-" then
      discard (call (.close descriptor))
      return none
    else match target.toList with
      | [digit] =>
        if digit.isDigit = false then abort "Syntax error: Bad fd number"
        let source := digit.toNat - 48
        if source = descriptor then return none
        match ← call (.duplicate source descriptor) with
        | .ok _ => return none
        | .error fault => return some (target ++ ": " ++ fault.message)
      | _ => abort "Syntax error: Bad fd number"
  | .document =>
    let ends ← call .makePipe
    let (exit, entrance) : Nat × Nat := ends
    discard (act (Routine.emit entrance target))
    discard (call (.close entrance))
    moveDescriptor exit descriptor
    return none

/-- How deep functions may be called. -/
def longestCall : Nat := 1000

/-- A status other than zero ends the shell if that is wanted and the command is not a test. -/
def checked (tested : Bool) (flow : Flow) : Work Flow := do
  let s ← get
  if s.options.stopsOnFailure && !tested && s.status ≠ 0 then throw (.ending s.status)
  else return flow

/-- A part of what a shell does in a loop. -/
def inLoop (body : Work Flow) : Work Flow := do
  modify fun s => { s with loops := s.loops + 1 }
  let flow ← body
  modify fun s => { s with loops := s.loops - 1 }
  return flow

/-- Starts a task beside the shell that runs a routine in a copy of the shell's state. What the shell
does about signals is not passed on, but what it ignores is. -/
def startTask (body : State → Routine Nat) : Work Nat := do
  modify State.withoutOldJob
  let s ← get
  act (Routine.spawn do
    for (signal, script) in s.traps do
      if script ≠ "" ∧ signal ≠ 0 then Routine.perform (.dispose signal .usual)
    body s.forSubshell)

/-- The state in which a shell starts. -/
def startState (name : String) (arguments : List String) (env : Keyed String)
    (number : Nat) (directory : String) : State :=
  let s : State :=
    { name, arguments, number
      bindings := env.map fun v => (v.1, { value := some v.2, isExported := true }) }
  let usual := [("PATH", "/usr/local/sbin:/usr/local/bin:/usr/sbin:/usr/bin:/sbin:/bin"),
    ("PPID", toString (number - 1)), ("PS1", "# "), ("PS2", "> "), ("PS4", "+ ")]
  let s := usual.foldl (fun s v => if (s.valueOf? v.1).isSome then s else s.assigned v.1 v.2) s
  let s := (s.assigned "IFS" " \t\n").assigned "OPTIND" "1"
  (s.assigned "PWD" directory).marked "PWD" fun v => { v with isExported := true }

/-- Splits the assignments off the front of the arguments of `env`. -/
def leadingAssignments : List String → List (String × String) × List String
  | [] => ([], [])
  | a :: rest =>
    match Builtin.nameAndValue a with
    | (name, some value) =>
      let (others, rest) := leadingAssignments rest
      ((name, value) :: others, rest)
    | (_, none) => ([], a :: rest)

/-- What the switches in front of the arguments of a shell come to. -/
structure Switches where
  options : Options := {}
  /-- The first argument after them is the script. -/
  isCommand : Bool := false
  /-- How often the settings are to be written. -/
  listings : Nat := 0
  /-- What is no switch. -/
  illegal : Option String := none
  rest : List String

namespace Switches

/-- Takes the letters of one argument. -/
def take (on : Bool) : Switches → List Char → Switches
  | s, [] => s
  | s, 'c' :: letters => take on { s with isCommand := true } letters
  | s, 'l' :: letters => take on s letters
  | s, 'o' :: letters =>
    match s.rest with
    | [] => take on { s with listings := s.listings + 1 } letters
    | name :: rest =>
      if Options.names.any (·.1 = name) then
        take on { s with options := s.options.switched name on, rest } letters
      else { s with illegal := some ("-o " ++ name) }
  | s, c :: letters =>
    match Options.names.find? (·.2 = some c) with
    | some (name, _) => take on { s with options := s.options.switched name on } letters
    | none => { s with illegal := some (String.ofList ['-', c]) }

/-- Takes the switches in front of the arguments. -/
def read : Nat → Switches → Switches
  | 0, s => s
  | n + 1, s =>
    if s.illegal.isSome then s
    else match s.rest with
      | [] => s
      | a :: rest =>
        match a.toList with
        | ['-'] | ['-', '-'] => { s with rest }
        | '-' :: letters => read n (take true { s with rest } letters)
        | '+' :: letters => read n (take false { s with rest } letters)
        | _ => s

end Switches

mutual

/-- Runs a command; `tested` says that its status is being looked at. -/
def run (tested : Bool) : Nat → Command → Work Flow
  | 0, _ => throw (.ending 2)
  | n + 1, command => do
    if (← get).options.isOn "noexec" then return .next
    match command with
    | .nothing => return .next
    | .simple line assignments words redirections =>
      let flow ← runSimple tested line assignments words redirections n
      runTraps n
      checked tested flow
    | .pipeline negated stages =>
      let flow ← match stages with
        | [stage] => run (tested || negated) n stage
        | _ => do
          let children ← startStages stages none n
          let mut status := 0
          for child in children do
            status ← await child false
          runTraps n
          finish status
      if negated then
        setStatus (if (← get).status = 0 then 1 else 0)
        return flow
      else checked tested flow
    | .connected how first second =>
      let flow ← run (tested || how ≠ .sequence) n first
      if flow ≠ .next then return flow
      let status := (← get).status
      match how with
      | .sequence => run tested n second
      | .and => if status = 0 then run tested n second else return .next
      | .or => if status = 0 then return .next else run tested n second
    | .background body =>
      let child ← startTask fun s => do
        Routine.perform (.dispose 2 .ignore)
        Routine.perform (.dispose 3 .ignore)
        match ← Routine.perform (.openFile "/dev/null" .read) with
        | .ok d =>
          discard (Routine.perform (.duplicate d 0))
          if d ≠ 0 then Routine.perform (.close d)
        | .error _ => pure ()
        wholeShell (run false n body) s n
      modify (·.withJob child)
      finish 0
    | .subshell line body =>
      modify fun s => { s with line }
      let child ← startTask fun s => wholeShell (run tested n body) s n
      let status ← await child false
      runTraps n
      discard (finish status)
      checked tested .next
    | .redirected line body redirections =>
      modify fun s => { s with line }
      match ← redirect redirections [] n with
      | none =>
        setStatus 2
        checked tested .next
      | some saved => followedBy (run tested n body) (restore saved)
    | .conditional test thenBody elseBody =>
      let flow ← run true n test
      if flow ≠ .next then return flow
      if (← get).status = 0 then run tested n thenBody
      else
        setStatus 0
        run tested n elseBody
    | .loop wanted test body =>
      inLoop (runLoop tested wanted test body 0 n)
    | .each line name words body =>
      modify fun s => { s with line }
      let values ← match words with
        | some words => do pure (← words.mapM (Expansion.fields (output n))).flatten
        | none => do pure (← get).arguments
      setStatus 0
      inLoop (runEach tested name body values n)
    | .choose line word cases =>
      modify fun s => { s with line }
      let subject ← Expansion.text (output n) word
      setStatus 0
      runCases tested subject cases n
    | .define name body =>
      modify fun s => { s with functions := Keyed.insert s.functions name body }
      finish 0
termination_by structural fuel => fuel

/-- Carries out redirections. What the descriptors stood for is kept; nothing is the result if one of
the redirections is not possible, and then the others are undone. -/
def redirect (redirections : List Redirection) (saved : List (Nat × Option Nat)) :
    Nat → Work (Option (List (Nat × Option Nat)))
  | 0 => throw (.ending 2)
  | n + 1 => do
    match redirections with
    | [] => return some saved
    | .mk descriptor kind target :: rest =>
      let target ← Expansion.text (output n) target
      let copy ← match ← call (.preserve descriptor) with
        | .ok copy => pure (some copy)
        | .error _ => pure none
      let saved := (descriptor, copy) :: saved
      match ← redirectTo descriptor kind target with
      | none => redirect rest saved n
      | some message =>
        complain message
        restore saved
        return none
termination_by structural fuel => fuel

/-- Runs a simple command. Its words come first, then what it redirects, then the variables that it
sets: for good if there is nothing to run or a special command of the shell, else for a while. -/
def runSimple (tested : Bool) (line : Nat) (assignments : List (String × Word)) (words : List Word)
    (redirections : List Redirection) : Nat → Work Flow
  | 0 => throw (.ending 2)
  | n + 1 => do
    modify fun s => { s with line, substitutionStatus := none }
    discard (call .work)
    let before ← get
    let unwrap (fields : List String) : Builtin.Unwrapped :=
      Builtin.unwrapped (fun name => (Keyed.find? before.functions name).isSome)
        fields.length false fields
    let takesValues (fields : List String) : Bool :=
      (unwrap fields).fields.head?.any Builtin.setters.contains
    let fields ← Expansion.commandFields (output n) takesValues words []
    let target := unwrap fields
    let isSpecial := !target.isWrapped && target.fields.head?.any Reader.specialNames.contains
    match ← redirect redirections [] n with
    | none => if isSpecial then throw (.failure 2) else finish 2
    | some saved =>
      let isForGood := isSpecial || fields.isEmpty
      let isExec := target.fields.head? = some "exec"
      let depth := (← get).scopes.length
      let body : Work Flow := do
        if !isForGood then modify fun s => { s with scopes := {} :: s.scopes }
        let values ← setVariables isForGood (isExec && target.fields.length ≠ 1) assignments n
        if (← get).options.isTracing then
          let shown := values.map (fun v => v.1 ++ "=" ++ v.2) ++ fields
          let errors := ((saved.reverse.lookup 2).join).getD 2
          discard (act (Routine.emit errors ((← tracePrompt n) ++ " ".intercalate shown ++ "\n")))
        let flow ← dispatch tested isSpecial target n
        modify (·.unwound depth)
        return flow
      if isExec && target.fields.length = 1 then
        let flow ← body
        forget saved
        return flow
      else followedBy body (restore saved)
termination_by structural fuel => fuel

/-- Sets variables one after the other, for good or so that programs get to see them. -/
def setVariables (isForGood isExported : Bool) (assignments : List (String × Word)) :
    Nat → Work (List (String × String))
  | 0 => throw (.ending 2)
  | n + 1 => do
    match assignments with
    | [] => return []
    | (name, word) :: rest =>
      let value ← Expansion.text (output n) word
      if !isForGood then modify (·.remembered name)
      assign name value
      if !isForGood || isExported then
        modify (·.marked name fun v => { v with isExported := true })
      return (name, value) :: (← setVariables isForGood isExported rest n)
termination_by structural fuel => fuel

/-- What stands before a command that is written before it is run. -/
def tracePrompt : Nat → Work String
  | 0 => throw (.ending 2)
  | n + 1 => do
    let s ← get
    let chars := ((s.valueOf? "PS4").getD "+ ").toList
    set { s with options := s.options.switched "xtrace" false }
    let text ← match (Reader.readDocument [] (Reader.depthFor chars)).run { rest := chars } with
      | .ok (word, _) => Expansion.text (output n) word
      | .error _ => pure (String.ofList chars)
    modify fun after => { after with options := s.options }
    return text
termination_by structural fuel => fuel

/-- Runs what fields stand for: a function, a command of the shell, or a program. What goes wrong in a
command of the shell ends the shell only if that is a special one. -/
def dispatch (tested isSpecial : Bool) (target : Builtin.Unwrapped) : Nat → Work Flow
  | 0 => throw (.ending 2)
  | n + 1 => do
    match target.fields with
    | [] => finish ((← get).substitutionStatus.getD 0)
    | name :: arguments =>
      let s ← get
      let function := if target.isWrapped then none else Keyed.find? s.functions name
      match function with
      | some body => callFunction tested body arguments n
      | none =>
        if Builtin.isBuiltin name then
          tryCatch (speakingAs name do
            let flow ← runBuiltin tested name arguments n
            if (← get).hasLostOutput then
              modify fun s => { s with hasLostOutput := false, status := s.status ||| 1 }
              complain (name ++ ": I/O error")
            return flow) fun
            | .failure status => if isSpecial then throw (.failure status) else finish status
            | .ending status => throw (.ending status)
        else runExternal name arguments n
termination_by structural fuel => fuel

/-- Runs a program as a task of its own. -/
def runExternal (name : String) (arguments : List String) : Nat → Work Flow
  | 0 => throw (.ending 2)
  | n + 1 => do
    let s ← get
    let path := Builtin.program? s name
    if path.isNone && !name.toList.contains '/' then
      complain (name ++ (if name = "" then ": Permission denied" else ": not found"))
      finish 127
    else
      match path with
      | some path => modify fun s => { s with tracked := Keyed.insert s.tracked name path }
      | none => pure ()
      let child ← startTask fun _ => do
        Routine.perform .beginProgram
        runProgram name arguments s.environment (fun name => s.complaint (name ++ ": not found")) n
      finish (← await child false)
termination_by structural fuel => fuel

/-- Runs a command of the shell. -/
def runBuiltin (tested : Bool) (name : String) (arguments : List String) : Nat → Work Flow
  | 0 => throw (.ending 2)
  | n + 1 => do
    match name with
    | "eval" => runScript tested (" ".intercalate arguments).toList n
    | "." =>
      match ← Builtin.operands arguments with
      | [] => finish 0
      | path :: _ =>
        let path ← Builtin.scriptPath path
        match ← call (.openFile path .read) with
        | .error _ => abort ("cannot open " ++ path ++ ": No such file")
        | .ok d =>
          let bytes ← act (Routine.readAll d)
          discard (call (.close d))
          let script := (Text.Utf8.decodeLossy (bytes.toOption.getD [])).toList
          let flow ← speakingAs path (runScript false script n)
          return if flow = .returning then .next else flow
    | "exec" =>
      match arguments with
      | [] => finish 0
      | name :: arguments =>
        let s ← get
        let isThere ← if name.toList.contains '/' then do
            match ← call (.look name) with
            | .ok _ => pure true
            | .error _ => pure false
          else pure (Builtin.program? s name).isSome
        if !isThere then
          complain (name ++ ": not found")
          throw (.ending 127)
        discard (call .beginProgram)
        let status ← act (runProgram name arguments s.environment
          (fun name => s.complaint (name ++ ": not found")) n)
        act (Routine.finish status)
    | "type" => Builtin.type arguments
    | "command" =>
      let (letters, names) ← Builtin.options ['p', 'v', 'V'] [] arguments
      match letters.filter (·.1 ≠ 'p'), names with
      | [], _ | _, [] => finish 0
      | letters, name :: _ =>
        finish (← Builtin.describe (letters.getLast?.any (·.1 = 'v')) name)
    | _ =>
      match Builtin.table.lookup name with
      | some builtin => builtin arguments
      | none => finish 127
termination_by structural fuel => fuel

/-- Runs a text as a script in this shell. A script that holds no command leaves the status zero. -/
def runScript (tested : Bool) (script : List Char) : Nat → Work Flow
  | 0 => throw (.ending 2)
  | n + 1 => do
    let source : Source := { rest := script, aliases := (← get).aliases }
    match Reader.nextLine.run source with
    | .ok (none, _) => finish 0
    | _ => runLines tested source n
termination_by structural fuel => fuel

/-- Runs a function with arguments of its own. -/
def callFunction (tested : Bool) (body : Command) (arguments : List String) : Nat → Work Flow
  | 0 => throw (.ending 2)
  | n + 1 => do
    let before ← get
    if longestCall ≤ before.depth then
      abort ("Maximum function recursion depth (" ++ toString longestCall ++ ") reached")
    modify fun s => { s with arguments, option := {}, loops := 0, depth := s.depth + 1 }
    discard (followedBy (run tested n body) (modify fun s =>
      { s with
        arguments := before.arguments
        option := before.option
        loops := before.loops
        depth := before.depth }))
    return .next
termination_by structural fuel => fuel

/-- Goes round a loop; the status is that of the last round. -/
def runLoop (tested wanted : Bool) (test body : Command) (status : Nat) : Nat → Work Flow
  | 0 => throw (.ending 2)
  | n + 1 => do
    discard (call .work)
    match ← run true n test with
    | .next =>
      if ((← get).status == 0) != wanted then finish status
      else
        match ← run tested n body with
        | .next | .repeating 1 => runLoop tested wanted test body (← get).status n
        | .leaving 1 => finish 0
        | .leaving k => return .leaving (k - 1)
        | .repeating k => return .repeating (k - 1)
        | .returning => return .returning
    | .leaving 1 => finish 0
    | .leaving k => return .leaving (k - 1)
    | .repeating 1 => runLoop tested wanted test body status n
    | .repeating k => return .repeating (k - 1)
    | .returning => return .returning
termination_by structural fuel => fuel

/-- Runs the body of a loop for each value. -/
def runEach (tested : Bool) (name : String) (body : Command) (values : List String) :
    Nat → Work Flow
  | 0 => throw (.ending 2)
  | n + 1 => do
    match values with
    | [] => return .next
    | value :: rest =>
      discard (call .work)
      assign name value
      match ← run tested n body with
      | .next | .repeating 1 => runEach tested name body rest n
      | .leaving 1 => finish 0
      | .leaving k => return .leaving (k - 1)
      | .repeating k => return .repeating (k - 1)
      | .returning => return .returning
termination_by structural fuel => fuel

/-- Runs the body of the first case that a text matches. -/
def runCases (tested : Bool) (subject : String) (cases : List (List Word × Command)) :
    Nat → Work Flow
  | 0 => throw (.ending 2)
  | n + 1 => do
    match cases with
    | [] => return .next
    | (patterns, body) :: rest =>
      let letters ← patterns.mapM (Expansion.letters (output n))
      if letters.any fun l => Pattern.accepts (Pattern.ofWord l) subject.toList then
        run tested n body
      else runCases tested subject rest n
termination_by structural fuel => fuel

/-- Starts the stages of a pipeline, the first of which reads what a descriptor stands for. -/
def startStages (stages : List Command) (input : Option Nat) : Nat → Work (List Nat)
  | 0 => throw (.ending 2)
  | n + 1 => do
    let takeInput : Routine Unit := do
      match input with
      | some d =>
        discard (Routine.perform (.duplicate d 0))
        Routine.perform (.close d)
      | none => pure ()
    let closeHere : Work Unit := do
      match input with
      | some d => discard (call (.close d))
      | none => pure ()
    match stages with
    | [] => return []
    | [stage] =>
      let child ← startTask fun s => do
        takeInput
        wholeShell (run false n stage) s n
      closeHere
      return [child]
    | stage :: rest =>
      let ends ← call .makePipe
      let (exit, entrance) : Nat × Nat := ends
      let child ← startTask fun s => do
        takeInput
        discard (Routine.perform (.duplicate entrance 1))
        Routine.perform (.close entrance)
        Routine.perform (.close exit)
        wholeShell (run false n stage) s n
      closeHere
      discard (call (.close entrance))
      return child :: (← startStages rest (some exit) n)
termination_by structural fuel => fuel

/-- Runs a command and takes what it writes. -/
def output : Nat → Command → Work (List UInt8)
  | 0, _ => throw (.ending 2)
  | n + 1, command => do
    let ends ← call .makePipe
    let (exit, entrance) : Nat × Nat := ends
    let child ← startTask fun s => do
      discard (Routine.perform (.duplicate entrance 1))
      Routine.perform (.close entrance)
      Routine.perform (.close exit)
      wholeShell (run false n command) s n
    discard (call (.close entrance))
    let bytes ← act (Routine.readAll exit)
    discard (call (.close exit))
    let status ← await child false
    modify fun s => { s with substitutionStatus := some status }
    return bytes.toOption.getD []
termination_by structural fuel => fuel

/-- Does what is to be done on the signals that came in. -/
def runTraps : Nat → Work Unit
  | 0 => throw (.ending 2)
  | n + 1 => do
    let s ← get
    if s.traps.any fun t => t.1 ≠ 0 && t.2 ≠ "" then
      match ← call .noted with
      | none => pure ()
      | some signal =>
        match s.traps.lookup signal with
        | some script =>
          discard (runLines false { rest := script.toList, line := s.line } n)
          setStatus s.status
        | none => pure ()
        runTraps n
termination_by structural fuel => fuel

/-- Runs a script line by line. -/
def runLines (tested : Bool) (source : Source) : Nat → Work Flow
  | 0 => throw (.ending 2)
  | n + 1 => do
    match Reader.nextLine.run { source with aliases := (← get).aliases } with
    | .error problem =>
      modify fun s => { s with line := problem.line }
      abort problem.message
    | .ok (none, _) => return .next
    | .ok (some command, source) =>
      match ← run tested n command with
      | .next => runLines tested source n
      | flow => return flow
termination_by structural fuel => fuel

/-- A part of what a shell does as a whole task: its exit code is the status that is left, and before
the end comes what was to be done then. -/
def wholeShell (body : Work Flow) (s : State) : Nat → Routine Nat
  | 0 => Routine.finish 2
  | n + 1 => do
    let (result, s) ← body.run.run s
    let status := match result with
      | .ok _ => s.status
      | .error departure => departure.status
    match s.traps.lookup 0 with
    | none | some "" => return status % 256
    | some script =>
      let s := { s with status, traps := s.traps.filter (·.1 ≠ 0) }
      let source : Source := { rest := script.toList, line := s.line }
      let (result, _) ← (runLines false source n).run.run s
      return (match result with
        | .ok _ => status
        | .error departure => departure.status) % 256
termination_by structural fuel => fuel

/-- Runs a shell as a program. -/
def runShell (arguments : List String) (env : Keyed String) : Nat → Routine Nat
  | 0 => Routine.finish 2
  | n + 1 => do
    let number : Nat ← Routine.perform .ownNumber
    let directory : String ← Routine.perform .directory
    let switches := Switches.read (arguments.length + 1) { rest := arguments }
    for _ in List.range switches.listings do
      for line in "Current option settings" :: Options.names.map fun o => Builtin.padded 16 o.1 ++ "on" do
        Routine.say (line ++ "\n")
    match switches.illegal, switches.isCommand, switches.rest with
    | some option, _, _ =>
      Routine.complain ("sh: 0: Illegal option " ++ option)
      return 2
    | none, true, [] =>
      Routine.complain "sh: 0: -c requires an argument"
      return 2
    | none, isCommand, operands =>
      let readsInput := switches.options.isOn "stdin" || operands.isEmpty
      let (name, parameters) : String × List String :=
        if isCommand then (operands.tail.headD "sh", operands.tail.tail)
        else if readsInput then ("sh", operands)
        else (operands.headD "sh", operands.tail)
      let source : Except Fault Nat ← if isCommand || readsInput then pure (.ok 0)
        else Routine.perform (.openFile name .read)
      match source with
      | .error _ =>
        Routine.complain ("sh: 0: cannot open " ++ name ++ ": No such file")
        return 2
      | .ok descriptor =>
        let script : String ← if isCommand then pure (operands.headD "") else do
          let bytes ← Routine.readAll descriptor
          if descriptor ≠ 0 then Routine.perform (.close descriptor)
          pure (Text.Utf8.decodeLossy (bytes.toOption.getD []))
        let s := { startState name parameters env number directory with options := switches.options }
        wholeShell (runLines false { rest := script.toList } n) s n
termination_by structural fuel => fuel

/-- Runs a program by its name, or what has to be said if there is none. -/
def runProgram (name : String) (arguments : List String) (env : Keyed String)
    (absence : Absence) : Nat → Routine Nat
  | 0 => Routine.finish 2
  | n + 1 => do
    let isPath := name.toList.contains '/'
    let base := if isPath then Files.lastName name else name
    let isThere := !isPath || Files.isAmongPrograms name
    if !(isThere && Builtin.isProgram base) then
      if isPath && name ≠ "" then
        match ← Routine.perform (.look name) with
        | .ok _ =>
          let line := (absence name).toList
          let line := String.ofList (line.take (line.length - "not found".length))
          Routine.complain (line ++ "Permission denied")
          return 126
        | .error _ => pure ()
      Routine.complain (absence name)
      return 127
    else
      let failing (what : String) : Absence := fun name =>
        what ++ " '" ++ name ++ "': No such file or directory"
      let needsOperand : Routine Nat := do
        Routine.complain (base ++ ": missing operand\n" ++ Tools.seeHelp base)
        return 125
      match base with
      | "sh" | "dash" | "bash" => runShell arguments env n
      | "env" =>
        let (env, arguments) := match arguments with
          | "-i" :: rest => ([], rest)
          | _ => (env, arguments)
        let (set, rest) := leadingAssignments arguments
        let env := set.foldl (fun m v => Keyed.insert m v.1 v.2) env
        match rest with
        | [] => Tools.printenv { name := base, arguments := [], environment := env }
        | name :: arguments =>
          runProgram name arguments env
            (fun name => "env: '" ++ name ++ "': No such file or directory") n
      | "setsid" =>
        match arguments.filter fun a => a ≠ "-f" ∧ a ≠ "-w" with
        | [] =>
          Routine.complain ("setsid: no command specified\n" ++ Tools.seeHelp base)
          return 1
        | name :: arguments =>
          Routine.perform .newGroup
          runProgram name arguments env
            (fun name => "setsid: failed to execute " ++ name ++ ": No such file or directory") n
      | "nohup" =>
        match arguments with
        | [] => needsOperand
        | name :: arguments =>
          Routine.perform (.dispose 1 .ignore)
          runProgram name arguments env (failing "nohup: failed to run command") n
      | "nice" =>
        match arguments with
        | "-n" :: _ :: name :: arguments | name :: arguments =>
          runProgram name arguments env (fun name =>
            "nice: '" ++ name ++ "': No such file or directory") n
        | [] =>
          Routine.say "0\n"
          return 0
      | "timeout" =>
        match arguments with
        | duration :: name :: arguments =>
          match Tools.interval? duration with
          | none =>
            Routine.complain ("timeout: invalid time interval " ++ Tools.shown duration ++ "\n" ++
              Tools.seeHelp base)
            return 125
          | some micros =>
            let child ← Routine.spawn
              (runProgram name arguments env (failing "timeout: failed to run command") n)
            let timer ← Routine.spawn do
              Routine.perform (.sleep micros)
              discard (Routine.perform (.send child Signal.terminate))
              return 0
            let ending ← Routine.perform (.waitFor child false)
            discard (Routine.perform (.send timer Signal.kill))
            match ending with
            | .ended (.exited code) => return code
            | .ended (.killed s) => return if s = Signal.terminate then 124 else 128 + s
            | _ => return 125
        | _ => needsOperand
      | "xargs" =>
        let bytes := ((← Routine.readAll 0).toOption).getD []
        let words := ((Text.Utf8.decodeLossy bytes).toList.splitOnP Char.isWhitespace).filter
          (· ≠ [])
        let words := words.map String.ofList
        let (size, arguments) := match arguments with
          | "-n" :: k :: rest => (k.toNat?.getD 1, rest)
          | _ => (words.length + 1, arguments)
        let (name, arguments) := match arguments with
          | [] => ("echo", [])
          | name :: arguments => (name, arguments)
        runBatches name arguments env size words 0 n
      | _ =>
        match Tools.find? base with
        | some tool => tool { name, arguments, environment := env }
        | none => return 127
termination_by structural fuel => fuel

/-- Runs a program with some words at a time as its last arguments, until there are none left. -/
def runBatches (name : String) (arguments : List String) (env : Keyed String) (size : Nat)
    (words : List String) (status : Nat) : Nat → Routine Nat
  | 0 => Routine.finish 2
  | n + 1 => do
    let batch := words.take (max size 1)
    let child ← Routine.spawn (runProgram name (arguments ++ batch) env
      (fun name => "xargs: " ++ name ++ ": No such file or directory") n)
    let ending ← Routine.perform (.waitFor child false)
    let status := match ending with
      | .ended (.exited 0) => status
      | .ended (.exited 127) => 127
      | _ => 123
    let rest := words.drop (max size 1)
    if rest = [] then return status
    else runBatches name arguments env size rest status n
termination_by structural fuel => fuel

end

/-- A shell that runs one command, as a whole task. -/
def activityOf (command : String) (env : Keyed String) : Activity :=
  (runShell ["-c", command] env Routine.endless).activity

end PlainTerminal.Shell
