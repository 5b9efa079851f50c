import PlainTerminal.Tools.Invocation

/-!
# Programs that handle files and directories

They list, make, move and remove what is at the paths they are given, one operand after the other,
and fail when one of them could not be handled.
-/

namespace PlainTerminal.Tools

open Routine

/-- A path in a directory. -/
def below (directory name : String) : String :=
  if directory.toList.getLast? = some '/' then directory ++ name else directory ++ "/" ++ name

/-- Complains that something cannot be done to an operand. -/
def complainDoing (i : Invocation) (doing operand : String) (fault : Fault) : Routine Unit :=
  complain (i.name ++ ": " ++ doing ++ " " ++ shown operand ++ ": " ++ fault.message)

/-- Complains that there are no operands. -/
def missingOperand (i : Invocation) : Routine Nat := do
  complain (i.name ++ ": missing operand\n" ++ seeHelp i.name)
  return 1

/-- Handles each operand; the exit code says whether all could be handled. -/
def forOperands (operands : List String) (handle : String → Routine Bool) : Routine Nat :=
  operands.foldlM (fun code operand => do return if ← handle operand then code else 1) 0

/-- What is at a path, if anything is. -/
def entryAt (path : String) : Routine (Option Entry) := do
  return (← perform (.look path)).toOption

/-- There is a directory at a path. -/
def isDirectoryAt (path : String) : Routine Bool := do
  return (← entryAt path) == some .directory

/-- The names in a directory that are shown. -/
def namesShown (a : Arguments) (names : List String) : List String :=
  let kept := if a.has 'a' || a.has 'A' then names
    else names.filter fun n => n.toList.head? ≠ some '.'
  let names := (if a.has 'a' then [".", ".."] else []) ++ kept
  if a.has 'r' then names.reverse else names

/-- Lists directories. -/
def ls : Tool := fun i =>
  withArguments i
    ['a', 'A', '1', 'd', 'l', 'r', 't', 'F', 'p', 'h', 'C', 'x', 'm', 'S', 'n', 'i', 's'] [] 2
    fun a => do
      let operands := if a.operands = [] then ["."] else a.operands.mergeSort
      let (files, directories, code) ← operands.foldlM (fun (files, directories, code) operand => do
        match ← perform (.look operand) with
        | .error fault =>
          complainDoing i "cannot access" operand fault
          return (files, directories, 2)
        | .ok e =>
          if e = .directory ∧ a.has 'd' = false then
            return (files, operand :: directories, code)
          else return (operand :: files, directories, code)) ([], [], 0)
      let mark (path : String) : Routine String := do
        if a.has 'F' || a.has 'p' then
          return if ← isDirectoryAt path then "/" else ""
        else return ""
      for file in files.reverse do
        say (file ++ (← mark file) ++ "\n")
      directories.reverse.foldlM (fun (isFirst, code) directory => do
        match ← perform (.list directory) with
        | .error fault =>
          complainDoing i "cannot open directory" directory fault
          return (false, 2)
        | .ok names =>
          if 1 < operands.length then
            say ((if isFirst && files.isEmpty then "" else "\n") ++ directory ++ ":\n")
          for name in namesShown a names do
            say (name ++ (← mark (below directory name)) ++ "\n")
          return (false, code)) (true, code) >>= fun r => return r.2

/-- Makes directories. -/
def mkdir : Tool := fun i => withArguments i ['p', 'v'] ['m'] 1 fun a => do
  if a.operands = [] then missingOperand i
  else forOperands a.operands fun operand => do
    let complainHere (fault : Fault) : Routine Bool := do
      complainDoing i "cannot create directory" operand fault
      return false
    if a.has 'p' then
      let pieces := operand.toList.splitOn '/'
      let paths := (List.range pieces.length).filterMap fun n =>
        let path := String.ofList (['/'].intercalate (pieces.take (n + 1)))
        if path = "" then none else some path
      paths.foldlM (fun fine path => do
        if !fine then return false
        match ← perform (.makeDirectory path) with
        | .ok () => return true
        | .error .alreadyThere => do
          if ← isDirectoryAt path then return true else complainHere .alreadyThere
        | .error fault => complainHere fault) true
    else
      match ← perform (.makeDirectory operand) with
      | .ok () => return true
      | .error fault => complainHere fault

/-- Removes empty directories. -/
def rmdir : Tool := fun i => withArguments i ['p', 'v'] [] 1 fun a => do
  if a.operands = [] then missingOperand i
  else forOperands a.operands fun operand => do
    match ← perform (.removeDirectory operand) with
    | .ok () => return true
    | .error fault =>
      complainDoing i "failed to remove" operand fault
      return false

/-- Removes what is at a path with all that is below it. The number bounds how deep that goes. -/
def removeAll : Nat → String → Routine (Except Fault Unit)
  | 0, _ => return .error .notEmpty
  | n + 1, path => do
    match ← perform (.list path) with
    | .error _ => perform (.remove path)
    | .ok names =>
      let r ← names.foldlM (fun r name => do
        match r with
        | .ok () => removeAll n (below path name)
        | .error fault => return .error fault) (.ok () : Except Fault Unit)
      match r with
      | .ok () => perform (.removeDirectory path)
      | .error fault => return .error fault

/-- Removes files, and directories if that is wanted. -/
def rm : Tool := fun i => withArguments i ['f', 'r', 'R', 'v', 'i', 'd'] [] 1 fun a => do
  if a.operands = [] then
    if a.has 'f' then return 0 else missingOperand i
  else forOperands a.operands fun operand => do
    let result ← if a.has 'r' || a.has 'R' then removeAll 4096 operand
      else perform (.remove operand)
    match result with
    | .ok () => return true
    | .error fault =>
      if a.has 'f' && (fault = .notFound || fault = .notDirectory) then return true
      else
        complainDoing i "cannot remove" operand fault
        return false

/-- Makes empty files where there are none. -/
def touch : Tool := fun i => withArguments i ['a', 'c', 'm'] ['d', 'r', 't'] 1 fun a => do
  if a.operands = [] then
    complain (i.name ++ ": missing file operand\n" ++ seeHelp i.name)
    return 1
  else forOperands a.operands fun operand => do
    if (← entryAt operand).isSome || a.has 'c' then return true
    match ← perform (.openFile operand .append) with
    | .ok d =>
      perform (.close d)
      return true
    | .error fault =>
      complainDoing i "cannot touch" operand fault
      return false

/-- Copies what is at one path to another. The number bounds how deep directories go. -/
def copyAll (i : Invocation) (recursive : Bool) : Nat → String → String → Routine Bool
  | 0, _, _ => return false
  | n + 1, source, target => do
    match ← perform (.look source) with
    | .error fault =>
      complainDoing i "cannot stat" source fault
      return false
    | .ok .directory =>
      if !recursive then
        complain (i.name ++ ": -r not specified; omitting directory " ++ shown source)
        return false
      else
        discard (perform (.makeDirectory target))
        match ← perform (.list source) with
        | .error _ => return false
        | .ok names => names.foldlM (fun fine name => do
            return (← copyAll i recursive n (below source name) (below target name)) && fine) true
    | .ok _ =>
      match ← perform (.openFile source .read) with
      | .error fault =>
        complainDoing i "cannot open" source fault
        return false
      | .ok input =>
        let bytes := (← readAll input).toOption.getD []
        perform (.close input)
        match ← perform (.openFile target .write) with
        | .error fault =>
          complainDoing i "cannot create regular file" target fault
          return false
        | .ok output =>
          discard (emitBytes output bytes)
          perform (.close output)
          return true

/-- Handles each source together with its target, which is below the last operand if that is a
directory. -/
def forTargets (i : Invocation) (operands : List String)
    (handle : String → String → Routine Bool) : Routine Nat := do
  match operands.reverse with
  | [] =>
    complain (i.name ++ ": missing file operand\n" ++ seeHelp i.name)
    return 1
  | [only] =>
    complain (i.name ++ ": missing destination file operand after " ++ shown only ++ "\n" ++
      seeHelp i.name)
    return 1
  | target :: sources =>
    let inside ← isDirectoryAt target
    if 1 < sources.length && !inside then
      complain (i.name ++ ": target " ++ shown target ++ ": No such file or directory")
      return 1
    else forOperands sources.reverse fun source =>
      handle source (if inside then below target (Files.lastName source) else target)

/-- Copies files, and directories if that is wanted. -/
def cp : Tool := fun i => withArguments i ['r', 'R', 'a', 'f', 'p', 'v', 'i', 'n'] [] 1 fun a =>
  forTargets i a.operands (copyAll i (a.has 'r' || a.has 'R' || a.has 'a') 4096)

/-- Moves files and directories. -/
def mv : Tool := fun i => withArguments i ['f', 'v', 'i', 'n'] [] 1 fun a =>
  forTargets i a.operands fun source target => do
    if (← entryAt source).isNone then
      complainDoing i "cannot stat" source .notFound
      return false
    match ← perform (.rename source target) with
    | .ok () => return true
    | .error fault =>
      complain (i.name ++ ": cannot move " ++ shown source ++ " to " ++ shown target ++ ": " ++
        fault.message)
      return false

end PlainTerminal.Tools
