import PlainTerminal.Shell.Condition
import PlainTerminal.Shell.Expansion
import PlainTerminal.Shell.Format
import PlainTerminal.Shell.Reader
import PlainTerminal.Tools.Table

/-!
# Commands of the shell itself

The commands that a shell carries out without starting a program, other than those that run further
commands. Each gets its arguments, leaves a status, and says how things go on.
-/

namespace PlainTerminal.Shell

/-- How things go on after a command. -/
inductive Flow where
  | next
  /-- Out of so many loops. -/
  | leaving (loops : Nat)
  /-- To the next round of the loop that is so many loops further out. -/
  | repeating (loops : Nat)
  /-- Out of the function. -/
  | returning
deriving DecidableEq, Repr

/-- A command of the shell. -/
abbrev Builtin := List String → Work Flow

namespace Builtin

/-- Leaves a status and goes on. -/
def finish (status : Nat) : Work Flow := do
  setStatus status
  return .next

/-- Complains and leaves a status. -/
def reject (message : String) (status : Nat) : Work Flow := do
  complain message
  finish status

/-- A text that is no number that an operand can be. -/
def illegalNumber {α : Type} (text : String) : Work α := abort ("Illegal number: " ++ text)

/-- A number that is an operand: digits with an optional sign, and blanks around. -/
def count (text : String) : Work Nat := do
  let chars := text.toList.dropWhile Char.isWhitespace
  let chars := (chars.reverse.dropWhile Char.isWhitespace).reverse
  let (digits, limit) := match chars with
    | '+' :: digits => (digits, UInt32.size / 2)
    | '-' :: digits => (digits, 1)
    | _ => (chars, UInt32.size / 2)
  let n := (String.ofList digits).toNat?.getD 0
  if digits ≠ [] ∧ digits.all Char.isDigit = true ∧ n < limit then return n
  else illegalNumber text

/-- The options that the letters of one argument are; one that has a text gets what follows it there,
if something does. -/
def optionLetters (flags valued : List Char) : List Char → Except Char (List (Char × Option String))
  | [] => .ok []
  | c :: rest =>
    if valued.contains c then
      .ok [(c, if rest = [] then none else some (String.ofList rest))]
    else if flags.contains c then
      (optionLetters flags valued rest).map ((c, some "") :: ·)
    else .error c

/-- Splits the options off the front of arguments; some of the letters have a text. -/
def options (flags valued : List Char) :
    List String → Work (List (Char × String) × List String)
  | [] => return ([], [])
  | a :: rest => do
    match a.toList with
    | ['-', '-'] => return ([], rest)
    | '-' :: c :: letters =>
      match optionLetters flags valued (c :: letters) with
      | .error c => abort ("Illegal option -" ++ String.ofList [c])
      | .ok found =>
        let complete := found.filterMap fun o => o.2.map (o.1, ·)
        match found.find? (·.2.isNone) with
        | none =>
          let (others, operands) ← options flags valued rest
          return (complete ++ others, operands)
        | some (c, _) =>
          match rest with
          | [] => abort ("No arg for -" ++ String.ofList [c] ++ " option")
          | value :: rest =>
            let (others, operands) ← options flags valued rest
            return (complete ++ (c, value) :: others, operands)
    | _ => return ([], a :: rest)

/-- The operands of a command that has no options. -/
def operands (arguments : List String) : Work (List String) := do
  return (← options [] [] arguments).2

/-! ## Output -/

/-- Writes bytes to the first stream. -/
def write (bytes : List UInt8) : Work Unit := do
  if !(← act (Routine.emitBytes 1 bytes)) then
    modify fun s => { s with hasLostOutput := true }

/-- Writes a line to the first stream. -/
def say (line : String) : Work Unit := write (Routine.bytesOf (line ++ "\n"))

/-- A text that blanks make at least so long. -/
def padded (size : Nat) (text : String) : String :=
  text ++ String.ofList (List.replicate (size - text.length) ' ')

/-- Writes its arguments. -/
def echo : Builtin := fun arguments => do
  write (Format.echo arguments)
  finish 0

/-- Writes its arguments in a format. -/
def printf : Builtin := fun arguments => do
  match ← operands arguments with
  | [] => reject "usage: printf format [arg ...]" 2
  | format :: arguments =>
    let (bytes, complaints) := Format.printf format arguments
    for c in complaints do
      complain c.message
    write bytes
    finish (if complaints = [] then 0
      else if complaints.all Format.Complaint.isHarmless then 1 else 2)

/-! ## Directories -/

/-- Writes the working directory. -/
def pwd : Builtin := fun arguments => do
  discard (options ['L', 'P'] [] arguments)
  let here : String ← call .directory
  say here
  finish 0

/-- Sets a variable that programs get to see. -/
def assignExported (name value : String) : Work Unit := do
  assign name value
  modify (·.marked name fun v => { v with isExported := true })

/-- Changes the working directory. -/
def cd : Builtin := fun arguments => do
  let (_, arguments) ← options ['L', 'P'] [] arguments
  let s ← get
  let (target, isBack) := match arguments with
    | [] => (s.valueOf? "HOME", false)
    | "-" :: _ => (s.valueOf? "OLDPWD", true)
    | a :: _ => (some a, false)
  match target with
  | none => if isBack then reject "OLDPWD not set" 2 else finish 0
  | some target =>
    if target = "" then finish 0
    else
      let before : String ← call .directory
      match ← call (.enterDirectory target) with
      | .error _ => reject ("can't cd to " ++ target) 2
      | .ok _ =>
        let here : String ← call .directory
        assignExported "OLDPWD" before
        assignExported "PWD" here
        if isBack then say here
        finish 0

/-- The letters of permissions. -/
def permissionLetters (bits : Nat) : String :=
  (if bits / 4 % 2 = 1 then "r" else "") ++ (if bits / 2 % 2 = 1 then "w" else "") ++
    (if bits % 2 = 1 then "x" else "")

/-- Writes or sets the permissions that new files do not get. -/
def umask : Builtin := fun arguments => do
  let (letters, arguments) ← options ['S'] [] arguments
  match arguments with
  | [] =>
    let mask := (← get).mask
    let digits := [mask / 512, mask / 64, mask / 8, mask].map (· % 8)
    if letters = [] then say (String.join (digits.map toString))
    else
      let allowed := (digits.drop 1).map fun d => permissionLetters (7 - d)
      say (",".intercalate (List.zipWith (· ++ "=" ++ ·) ["u", "g", "o"] allowed))
    finish 0
  | text :: _ =>
    if text.toList.head?.any Char.isDigit then
      match Expression.inBase 8 text.toList with
      | some mask =>
        modify fun s => { s with mask := mask % 512 }
        finish 0
      | none => illegalNumber text
    else reject ("Illegal mode: " ++ text) 2

/-! ## Control -/

/-- Leaves the shell. -/
def exit : Builtin := fun arguments => do
  match arguments with
  | [] => throw (.ending (← get).status)
  | a :: _ => throw (.ending (← count a))

/-- Returns from a function. -/
def returnFrom : Builtin := fun arguments => do
  match arguments with
  | [] => pure ()
  | a :: _ => setStatus (← count a)
  return .returning

/-- Leaves loops, or goes to their next round; outside of loops it does nothing. -/
def jump (flow : Nat → Flow) : Builtin := fun arguments => do
  let n ← match arguments with
    | [] => pure 1
    | a :: _ => do
      let n ← count a
      if n = 0 then illegalNumber a else pure n
  setStatus 0
  let loops := (← get).loops
  return if loops = 0 then .next else flow (min n loops)

/-- Finds out whether a condition holds. -/
def test (isBracket : Bool) : Builtin := fun arguments => do
  if isBracket && arguments.getLast? ≠ some "]" then reject "missing ]" 2
  else
    let arguments := if isBracket then arguments.dropLast else arguments
    match ← act (Condition.holds arguments).run with
    | .ok holds => finish (if holds then 0 else 1)
    | .error message => reject message 2

/-! ## Variables -/

/-- A name, and the value it is given if there is one. -/
def nameAndValue (text : String) : String × Option String :=
  let name := text.toList.takeWhile (· ≠ '=')
  (String.ofList name,
    if name.length = text.length then none
    else some (String.ofList (text.toList.drop (name.length + 1))))

/-- A text that can be a name. -/
def isName (text : String) : Bool :=
  text.toList.head?.any Reader.beginsName && text.toList.all Reader.isNameChar

/-- Demands that a text can be the name of a variable. -/
def demandName (name : String) : Work Unit := do
  if !isName name then abort (name ++ ": bad variable name")

/-- A text in single quotes. -/
def quoted (text : String) : String :=
  "'" ++ "'\"'\"'".intercalate ((text.toList.splitOn '\x27').map String.ofList) ++ "'"

/-- Marks variables, and sets those that are given a value. -/
def declare (command : String) (mark : Variable → Variable) (isShown : Variable → Bool) :
    Builtin := fun arguments => do
  let (letters, arguments) ← options ['p'] [] arguments
  if arguments = [] ∨ letters ≠ [] then
    for (name, v) in (← get).bindings do
      if isShown v then
        say (command ++ " " ++ name ++ v.value.elim "" fun value => "=" ++ quoted value)
  else
    for text in arguments do
      let (name, value) := nameAndValue text
      demandName name
      match value with
      | some value => assign name value
      | none => pure ()
      modify (·.marked name mark)
  finish 0

/-- Makes variables a function's own. -/
def localVariables : Builtin := fun arguments => do
  if (← get).scopes.isEmpty then abort "not in a function"
  for text in arguments do
    if text = "-" then
      modify fun s =>
        match s.scopes with
        | scope :: outer =>
          { s with scopes := { scope with options := some (scope.options.getD s.options) } :: outer }
        | [] => s
    else
      let (name, value) := nameAndValue text
      demandName name
      modify (·.remembered name)
      match value with
      | some value => assign name value
      | none => pure ()
  finish 0

/-- Removes variables or functions. -/
def unset : Builtin := fun arguments => do
  let (letters, arguments) ← options ['v', 'f'] [] arguments
  for name in arguments do
    if letters.getLast?.any (·.1 = 'f') then
      modify fun s => { s with functions := Keyed.erase s.functions name }
    else
      let (name, _) := nameAndValue name
      demandName name
      if (Keyed.find? (← get).bindings name).any Variable.isReadOnly then
        abort (name ++ ": is read only")
      modify fun s => { s with bindings := Keyed.erase s.bindings name }
  finish 0

/-- Drops positional parameters. -/
def shift : Builtin := fun arguments => do
  let n ← match arguments with
    | [] => pure 1
    | a :: _ => count a
  let s ← get
  if s.arguments.length < n then abort "can't shift that many"
  else
    set { s with arguments := s.arguments.drop n, option := {} }
    finish 0

/-- Switches an option that has a letter. -/
def switch (letter : Char) (on : Bool) : Work Unit := do
  match Options.names.find? (·.2 = some letter) with
  | some (name, _) =>
    if name = "monitor" ∧ on = true then complain "can't access tty; job control turned off"
    else modify fun s => { s with options := s.options.switched name on }
  | none => abort ("Illegal option -" ++ String.ofList [letter])

/-- Switches an option that is given by its name, or writes how all of them are. -/
def switchNamed (on : Bool) : List String → Work Unit
  | name :: _ => do
    if Options.names.any (·.1 = name) then
      modify fun s => { s with options := s.options.switched name on }
    else abort ("Illegal option -o " ++ name)
  | [] => do
    let o := (← get).options
    if on then
      say "Current option settings"
      for (name, _) in Options.names do
        say (padded 16 name ++ (if o.isOn name then "on" else "off"))
    else
      for (name, _) in Options.names do
        say ("set " ++ (if o.isOn name then "-o " else "+o ") ++ name)

/-- Switches options, and comes to the arguments after them, if any are meant as parameters. -/
def switches : Nat → List String → Work (Option (List String))
  | 0, _ => return none
  | _, [] => return none
  | n + 1, a :: rest => do
    match a.toList with
    | ['-'] =>
      modify fun s => { s with options := (s.options.switched "xtrace" false).switched "verbose" false }
      return if rest = [] then none else some rest
    | ['-', '-'] => return some rest
    | sign :: letters =>
      if sign = '-' ∨ sign = '+' then
        let mut rest := rest
        for letter in letters do
          if letter = 'o' then
            switchNamed (sign = '-') rest
            rest := rest.drop 1
          else switch letter (sign = '-')
        switches n rest
      else return some (a :: rest)
    | [] => return some (a :: rest)

/-- Switches options and sets positional parameters. -/
def setOptions : Builtin := fun arguments => do
  if arguments = [] then
    for (name, v) in (← get).bindings do
      match v.value with
      | some value => say (name ++ "=" ++ quoted value)
      | none => pure ()
  else
    match ← switches (arguments.length + 1) arguments with
    | some parameters => modify fun s => { s with arguments := parameters, option := {} }
    | none => pure ()
  finish 0

/-! ## Options of scripts -/

/-- Where looking for the options among some arguments comes to next. -/
structure Found where
  letter : Char
  /-- The text of the option, if it is known what that is. -/
  text : Option String
  complaint : Option String
  next : OptionPlace

/-- The next option among arguments; nothing if there are no more of them, then with the place where
the operands begin. -/
def nextOption (known : List Char) (arguments : List String) (place : OptionPlace) :
    OptionPlace ⊕ Found :=
  let inside := place.offset.bind fun offset =>
    match (arguments[place.index - 2]?).map fun a => a.toList.drop offset with
    | some (c :: letters) => some (c, letters, place.index, offset + 1)
    | _ => none
  let here : OptionPlace ⊕ (Char × List Char × Nat × Nat) := match inside with
    | some found => .inr found
    | none =>
      match (arguments[place.index - 1]?).map String.toList with
      | some ['-', '-'] => .inl ⟨place.index + 1, none⟩
      | some ('-' :: c :: letters) => .inr (c, letters, place.index + 1, 2)
      | _ => .inl ⟨place.index, none⟩
  match here with
  | .inl place => .inl place
  | .inr (c, letters, index, offset) =>
    let isQuiet := known.head? = some ':'
    let following := ((known.drop (if isQuiet then 1 else 0)).dropWhile (· ≠ c)).drop 1
    let name := String.ofList [c]
    let after : OptionPlace := ⟨index, if letters = [] then none else some offset⟩
    .inr <|
      if c = ':' ∨ known.contains c = false then
        if isQuiet then ⟨'?', some name, none, after⟩
        else ⟨'?', none, some ("Illegal option -" ++ name), after⟩
      else if following.head? = some ':' then
        match letters, arguments[index - 1]? with
        | [], some text => ⟨c, some text, none, ⟨index + 1, none⟩⟩
        | [], none =>
          if isQuiet then ⟨':', some name, none, after⟩
          else ⟨'?', none, some ("No arg for -" ++ name ++ " option"), after⟩
        | _, _ => ⟨c, some (String.ofList letters), none, ⟨index, none⟩⟩
      else ⟨c, some "", none, after⟩

/-- Finds the next option among arguments. -/
def getopts : Builtin := fun arguments => do
  match ← operands arguments with
  | known :: name :: given =>
    let s ← get
    let given := if given = [] then s.arguments else given
    let place := if given.length + 1 < s.option.index then {} else s.option
    let (letter, next, status) ← match nextOption known.toList given place with
      | .inl next => pure ('?', next, 1)
      | .inr found => do
        match found.complaint with
        | some complaint => act (Routine.complain complaint)
        | none => pure ()
        match found.text with
        | some text => assign "OPTARG" text
        | none => modify fun s => { s with bindings := Keyed.erase s.bindings "OPTARG" }
        pure (found.letter, found.next, 0)
    assign "OPTIND" (toString next.index)
    demandName name
    assign name (String.ofList [letter])
    modify fun s => { s with option := next }
    finish status
  | _ => abort "Usage: getopts optstring var [arg...]"

/-! ## Aliases -/

/-- Defines aliases, or writes what they stand for. -/
def defineAliases : Builtin := fun arguments => do
  let shown (a : String × String) : String := a.1 ++ "=" ++ quoted a.2
  let mut status := 0
  if arguments = [] then
    for a in (← get).aliases do
      say (shown a)
  for text in arguments do
    match nameAndValue text with
    | (name, some value) =>
      modify fun s => { s with aliases := Keyed.insert s.aliases name value }
    | (name, none) =>
      match Keyed.find? (← get).aliases name with
      | some value => say (shown (name, value))
      | none =>
        act (Routine.complain ("alias: " ++ name ++ " not found"))
        status := 1
  finish status

/-- Removes aliases. -/
def removeAliases : Builtin := fun arguments => do
  let (letters, arguments) ← options ['a'] [] arguments
  if letters ≠ [] then
    modify fun s => { s with aliases := [] }
    finish 0
  else
    let mut status := 0
    for name in arguments do
      if (Keyed.find? (← get).aliases name).isNone then
        act (Routine.complain ("unalias: " ++ name ++ " not found"))
        status := 1
      modify fun s => { s with aliases := Keyed.erase s.aliases name }
    finish status

/-! ## Reading -/

/-- Reads the bytes of a line one by one, and whether the line was ended. -/
def readLine : Routine (List UInt8 × Bool) :=
  Routine.repeatUntil (fun read => do
    match ← Routine.perform (.read 0 1) with
    | .ok [b] =>
      return if b = 10 then .inr (read.reverse, true) else .inl (b :: read)
    | _ => return .inr (read.reverse, false)) []

/-- The letters of a line in which a backslash protects the character after it; nothing if it
protects the end of the line. -/
def protectedLetters : List Char → Option (List Letter)
  | [] => some []
  | ['\x5c'] => none
  | '\x5c' :: c :: rest => (protectedLetters rest).map (⟨c, true⟩ :: ·)
  | c :: rest => (protectedLetters rest).map (⟨c, false⟩ :: ·)

/-- Reads a line, and the next ones as long as a backslash takes away the end. -/
def readLetters (raw : Bool) : Routine (List Letter × Bool) :=
  Routine.repeatUntil (fun before => do
    let (bytes, ended) ← readLine
    let chars := (Text.Utf8.decodeLossy (bytes.filter (· ≠ 0))).toList
    if raw then return .inr (before ++ chars.map fun c => ⟨c, false⟩, ended)
    else match protectedLetters chars with
      | some letters => return .inr (before ++ letters, ended)
      | none =>
        let letters := before ++ (protectedLetters chars.dropLast).getD []
        return if ended then .inl letters else .inr (letters, false)) []

/-- The values of so many variables: fields of a line, the last one with all that follows. -/
def valuesOf (separators : List Char) : Nat → List Letter → List String
  | 0, _ => []
  | n + 1, letters =>
    let isBlank (l : Letter) : Bool :=
      !l.quoted && separators.contains l.char && l.char.isWhitespace
    let separates (l : Letter) : Bool := !l.quoted && separators.contains l.char
    let letters := letters.dropWhile isBlank
    let field := letters.takeWhile fun l => !separates l
    let after := (letters.drop field.length).dropWhile isBlank
    let rest := match after with
      | l :: rest => if separates l then (rest.dropWhile isBlank) else after
      | [] => []
    if n = 0 then
      if rest = [] then [Letter.spell field]
      else [Letter.spell (letters.reverse.dropWhile isBlank).reverse]
    else Letter.spell field :: valuesOf separators n rest

/-- Reads a line into variables. -/
def read : Builtin := fun arguments => do
  let (letters, arguments) ← options ['r'] ['p'] arguments
  if arguments = [] then abort "arg count"
  let (line, ended) ← act (readLetters (letters.any (·.1 = 'r')))
  let values := valuesOf (← get).fieldSeparators arguments.length line
  for (name, value) in arguments.zip values do
    demandName name
    assign name value
  finish (if ended then 0 else 1)

/-! ## Signals and tasks -/

/-- The number of a signal that is given by its name or its number. -/
def signal? (text : String) : Option Signal :=
  if text ≠ "" ∧ text.toList.all Char.isDigit = true then
    text.toNat?.filter (· ≤ Signal.last)
  else
    let name := text.toUpper
    if name = "EXIT" then some 0 else (Signal.names.find? (·.2 = name)).map Prod.fst

/-- The name of a signal. -/
def signalName (s : Signal) : String :=
  if s = 0 then "EXIT" else (Signal.names.lookup s).getD (toString s)

/-- Does something about signals until one of them is none. -/
def trapAll (script : Option String) : List String → Work Flow
  | [] => finish 0
  | name :: rest => do
    match signal? name with
    | none =>
      act (Routine.complain ("trap: " ++ name ++ ": bad trap"))
      finish 1
    | some s =>
      modify fun st =>
        let below := st.traps.filter (·.1 < s)
        let above := st.traps.filter (s < ·.1)
        { st with traps := below ++ (script.map fun script => (s, script)).toList ++ above }
      if s ≠ 0 then
        call (.dispose s (match script with
          | none => .usual
          | some "" => .ignore
          | some _ => .note))
      trapAll script rest

/-- Says what is to be done on signals. -/
def trap : Builtin := fun arguments => do
  match ← operands arguments with
  | [] =>
    for (s, script) in (← get).traps do
      say ("trap -- " ++ quoted script ++ " " ++ signalName s)
    finish 0
  | first :: others =>
    let isNumber : Bool := first ≠ "" && first.toList.all Char.isDigit && (signal? first).isSome
    if others = [] ∨ isNumber = true then trapAll none (first :: others)
    else trapAll (if first = "-" then none else some first) others

/-- The number of a task in the background that is given by its place in the list of jobs. -/
def job (text : String) : Work Nat := do
  let number := (String.ofList (text.toList.drop 1)).toNat?
  let jobs := (← get).background
  let found := match text.toList with
    | ['%', '%'] | ['%', '+'] | ['%'] => jobs.head?
    | ['%', '-'] => jobs[1]?
    | '%' :: _ => jobs.find? fun j => some j.1 = number
    | _ => none
  match found with
  | some j => return j.2
  | none => abort ("No such job: " ++ text)

/-- The task or group that an operand of `kill` names. -/
def target (text : String) : Work Int := do
  match text.toList with
  | '%' :: _ => return -((← job text : Nat) : Int)
  | '-' :: digits =>
    return -((← count (String.ofList digits) : Nat) : Int)
  | _ => return ((← count text : Nat) : Int)

/-- Sends a signal to tasks. -/
def send (s : Signal) (targets : List String) : Work Flow := do
  let mut status := 0
  for text in targets do
    if !(← call (.send (← target text) s)) then
      complain "No such process\n"
      status := 1
  finish status

/-- What is said about how signals are sent. -/
def usageOfKill : String :=
  "Usage: kill [-s sigspec | -signum | -sigspec] [pid | job]... or\nkill -l [exitstatus]"

/-- Sends signals, or writes their names. -/
def kill : Builtin := fun arguments => do
  let direct : Option (Signal × List String) := match arguments with
    | first :: rest =>
      match first.toList with
      | '-' :: name =>
        ((signal? (String.ofList name)).filter fun s => s ≠ 0 ∨ name = ['0']).map (·, rest)
      | _ => none
    | [] => none
  match direct with
  | some (_, []) => reject usageOfKill 2
  | some (s, targets) => send s targets
  | none =>
    let (letters, targets) ← options ['l'] ['s'] arguments
    let named := (letters.filter (·.1 = 's')).getLast?
    match named with
    | some (_, name) =>
      match (signal? name).filter fun s => s ≠ 0 ∨ name = "0" with
      | none => abort ("invalid signal number or name: " ++ name)
      | some s => if targets = [] ∨ letters.length ≠ 1 then reject usageOfKill 2 else send s targets
    | none =>
      match letters, targets with
      | [], [] => reject usageOfKill 2
      | [], _ => send Signal.terminate targets
      | _, [] =>
        for name in "0" :: Signal.names.map Prod.snd do
          say name
        finish 0
      | _, text :: _ =>
        let n ← count text
        match Signal.names.lookup (if 128 < n then n - 128 else n) with
        | some name =>
          say name
          finish 0
        | none => abort ("invalid signal number or exit status: " ++ text)

/-- The status that an ending leaves. -/
def statusOf (how : Ending) : Nat :=
  match how with
  | .exited code => code
  | .killed s => 128 + s

/-- Waits for a task that the shell has started. A task that a signal has ended is mentioned. -/
def await (child : Nat) (isInterruptible : Bool) : Work Nat := do
  match ← call (.waitFor child isInterruptible) with
  | .ended how =>
    match how with
    | .killed s => if s ≠ 2 ∧ s ≠ 13 then act (Routine.complain (Signal.epitaph s))
    | .exited _ => pure ()
    return statusOf how
  | .interrupted => return 128 + Signal.terminate
  | .nobody => return 127

/-- Waits for a task in the background, and remembers how it ended for the next time. -/
def awaitJob (child : Nat) : Work Nat := do
  match (← get).endings.lookup child with
  | some status => return status
  | none =>
    let status ← await child true
    modify fun s => { s with endings := (child, status) :: s.endings }
    return status

/-- Waits for tasks in the background. -/
def wait : Builtin := fun arguments => do
  match ← operands arguments with
  | [] =>
    for (_, child) in (← get).background do
      discard (awaitJob child)
    finish 0
  | arguments =>
    let mut status := 127
    for a in arguments do
      let child ← if a.toList.head? = some '%' then job a else count a
      if (← get).background.any (·.2 = child) then
        status ← awaitJob child
    finish status

/-- How a job that has ended is called. -/
def endingName (status : Nat) : String :=
  if status = 0 then "Done"
  else if status ≤ 128 then "Done(" ++ toString status ++ ")"
  else Signal.epitaph (status - 128)

/-- Writes how the tasks in the background are; those that have ended are forgotten. -/
def jobs : Builtin := fun arguments => do
  let (letters, arguments) ← options ['l', 'p'] [] arguments
  let chosen ← arguments.mapM job
  let all := (← get).background
  for ((number, child), place) in all.zipIdx do
    if arguments = [] ∨ chosen.contains child then
      let isRunning ← call (.isRunning child)
      let runs : Bool := isRunning && ((← get).endings.lookup child).isNone
      if letters.any (·.1 = 'p') then say (toString child)
      else
        let mark := match place with
          | 0 => "+ "
          | 1 => "- "
          | _ => "  "
        let front := "[" ++ toString number ++ "] " ++ mark ++
          (if letters.any (·.1 = 'l') then toString child ++ " " else "")
        let state ← if runs then pure "Running" else do pure (endingName (← awaitJob child))
        let line := front ++ state
        say (padded (max 33 (line.length + 1)) line)
      if !runs then
        modify fun s => { s with background := s.background.filter (·.2 ≠ child) }
  finish 0

/-- Goes on with a job, which no shell without a terminal can do. -/
def resume : Builtin := fun arguments => do
  match ← operands arguments with
  | [] => if (← get).background = [] then abort "No current job"
  | a :: _ => discard (job a)
  abort "job (null) not created under job control"

/-! ## The rest -/

/-- Programs that start other programs. -/
def starters : List String := ["sh", "dash", "bash", "env", "setsid", "nohup", "nice", "timeout", "xargs"]

/-- The names of the programs. -/
def programs : List String := starters ++ Tools.table.map Prod.fst

/-- The name is that of a program. -/
def isProgram (name : String) : Bool := programs.contains name

/-- Where a program is found that is called by its name alone. -/
def program? (s : State) (name : String) : Option String :=
  let directories := ((s.valueOf? "PATH").elim [] fun path => path.toList.splitOn ':')
  let paths := directories.map fun d => String.ofList d ++ "/" ++ name
  if isProgram name then paths.find? Files.isAmongPrograms else none

/-- Writes or forgets where programs were found. -/
def hash : Builtin := fun arguments => do
  let (letters, arguments) ← options ['r'] [] arguments
  if letters ≠ [] then modify fun s => { s with tracked := [] }
  let mut status := 0
  if letters = [] ∧ arguments = [] then
    for (_, path) in (← get).tracked do
      say path
  for name in arguments do
    match program? (← get) name with
    | some path => modify fun s => { s with tracked := Keyed.insert s.tracked name path }
    | none =>
      complain (name ++ ": not found")
      status := 1
  finish status

/-- The commands of the shell, other than those that run further commands. -/
def table : List (String × Builtin) :=
  [(":", fun _ => finish 0), ("true", fun _ => finish 0), ("false", fun _ => finish 1),
    ("echo", echo), ("printf", printf), ("pwd", pwd), ("cd", cd), ("chdir", cd), ("exit", exit),
    ("return", returnFrom), ("break", jump .leaving), ("continue", jump .repeating),
    ("test", test false), ("[", test true),
    ("export", declare "export" (fun v => { v with isExported := true }) Variable.isExported),
    ("readonly", declare "readonly" (fun v => { v with isReadOnly := true }) Variable.isReadOnly),
    ("local", localVariables), ("unset", unset), ("shift", shift), ("set", setOptions),
    ("read", read), ("trap", trap), ("kill", kill), ("wait", wait), ("jobs", jobs),
    ("fg", resume), ("bg", resume), ("umask", umask), ("getopts", getopts), ("alias", defineAliases),
    ("unalias", removeAliases), ("hash", hash),
    ("ulimit", fun _ => do
      say "unlimited"
      finish 0),
    ("times", fun _ => do
      say "0m0.000000s 0m0.000000s\n0m0.000000s 0m0.000000s"
      finish 0)]

/-- Commands of the shell that run further commands. -/
def running : List String := ["eval", ".", "exec", "command"]

/-- The name is that of a command of the shell. -/
def isBuiltin (name : String) : Bool :=
  running.contains name || name == "type" || (table.lookup name).isSome

/-- Says what a name means in few words or in many; the status says whether it means anything. -/
def describe (isShort : Bool) (name : String) : Work Nat := do
  let s ← get
  let isPath := name.toList.contains '/'
  let isThere ← if isPath then do
      match ← call (.look name) with
      | .ok _ => pure true
      | .error _ => pure false
    else pure false
  let meaning : Option (String × String) :=
    if Reader.reservedWords.contains name then some (name, " is a shell keyword")
    else match Keyed.find? s.aliases name with
    | some text => some ("alias " ++ name ++ "=" ++ quoted text, " is an alias for " ++ text)
    | none =>
      if (Keyed.find? s.functions name).isSome then some (name, " is a shell function")
      else if Reader.specialNames.contains name then some (name, " is a special shell builtin")
      else if isBuiltin name then some (name, " is a shell builtin")
      else if isPath then (if isThere then some (name, " is " ++ name) else none)
      else match Keyed.find? s.tracked name with
      | some path => some (path, " is a tracked alias for " ++ path)
      | none => (program? s name).map fun path => (path, " is " ++ path)
  if !isPath then
    match program? s name with
    | some path => modify fun s => { s with tracked := Keyed.insert s.tracked name path }
    | none => pure ()
  match meaning with
  | some (short, long) =>
    say (if isShort then short else name ++ long)
    return 0
  | none =>
    if !isShort then say (name ++ ": not found")
    return 127

/-- Says what names mean. -/
def type : Builtin := fun names => do
  let mut status := 0
  for name in names do
    if (← describe false name) ≠ 0 then status := 127
  finish status

/-- Where the script is that `.` runs: if only its name is given, it is looked for like a program. -/
def scriptPath (name : String) : Work String := do
  if name.toList.contains '/' then return name
  for directory in (((← get).valueOf? "PATH").getD "").toList.splitOn ':' do
    let path := if directory = [] then name else String.ofList directory ++ "/" ++ name
    match ← call (.look path) with
    | .ok (.file _) => return path
    | _ => pure ()
  abort (name ++ ": not found")

/-- What is left of the fields of a command without the `command` in front and its options, and whether
there was one. -/
structure Unwrapped where
  fields : List String
  isWrapped : Bool := false

/-- Leaves out `command` and its options, if something to run follows. -/
def unwrapOnce : List String → Option (List String)
  | [] => none
  | a :: rest =>
    match a.toList with
    | ['-', '-'] => if rest = [] then none else some rest
    | '-' :: c :: letters => if (c :: letters).all (· == 'p') then unwrapOnce rest else none
    | _ => some (a :: rest)

/-- Leaves out `command` as often as it stands in front, unless it is the name of a function. -/
def unwrapped (isFunction : String → Bool) : Nat → Bool → List String → Unwrapped
  | n + 1, isWrapped, "command" :: rest =>
    if !isWrapped && isFunction "command" then ⟨"command" :: rest, isWrapped⟩
    else match unwrapOnce rest with
      | some fields => unwrapped isFunction n true fields
      | none => ⟨"command" :: rest, isWrapped⟩
  | _, isWrapped, fields => ⟨fields, isWrapped⟩

/-- Commands that set variables: their arguments may be values. -/
def setters : List String := ["export", "readonly", "local"]

end Builtin

end PlainTerminal.Shell
