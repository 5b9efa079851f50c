import PlainTerminal.Machine.Activity

/-!
# How programs are invoked

A program gets its name, its arguments and its variables, and comes to an exit code. Options are
single letters after a hyphen, some of which take a value; what is no option is an operand.
-/

namespace PlainTerminal

/-- What a program is started with. -/
structure Invocation where
  name : String
  arguments : List String
  environment : Keyed String := []

/-- A program of the machine. -/
abbrev Tool := Invocation → Routine Nat

namespace Tools

open Routine

/-- The options and operands of a program. -/
structure Arguments where
  options : List (Char × String) := []
  operands : List String := []
deriving DecidableEq, Repr

namespace Arguments

/-- The option is given. -/
def has (a : Arguments) (letter : Char) : Bool := a.options.any (·.1 == letter)

/-- The value of the option that is given last. -/
def value? (a : Arguments) (letter : Char) : Option String :=
  (a.options.reverse.find? (·.1 == letter)).map Prod.snd

end Arguments

/-- The options in a cluster of letters. An option with a value takes the rest of the cluster, or
else the next argument. -/
def cluster (plain valued : List Char) :
    List Char → List String → Except String (List (Char × String) × List String)
  | [], rest => .ok ([], rest)
  | c :: letters, rest =>
    if valued.contains c then
      if letters ≠ [] then .ok ([(c, String.ofList letters)], rest)
      else match rest with
        | value :: rest => .ok ([(c, value)], rest)
        | [] => .error ("option requires an argument -- '" ++ String.singleton c ++ "'")
    else if plain.contains c then
      (cluster plain valued letters rest).map fun (options, rest) => ((c, "") :: options, rest)
    else .error ("invalid option -- '" ++ String.singleton c ++ "'")

/-- Sorts arguments into options and operands. The number is that of the arguments. -/
def sortArguments (plain valued : List Char) : Nat → List String → Except String Arguments
  | 0, operands => .ok { operands }
  | _, [] => .ok {}
  | n + 1, a :: rest =>
    match a.toList with
    | ['-', '-'] => .ok { operands := rest }
    | '-' :: c :: letters =>
      if c = '-' then .error ("unrecognized option '" ++ a ++ "'")
      else do
        let (options, rest) ← cluster plain valued (c :: letters) rest
        let others ← sortArguments plain valued n rest
        return { others with options := options ++ others.options }
    | _ => do
      let others ← sortArguments plain valued n rest
      return { others with operands := a :: others.operands }

/-- The line that points to a program's manual. -/
def seeHelp (name : String) : String := "Try '" ++ name ++ " --help' for more information."

/-- Goes on with the arguments of a program, or ends it because of them. -/
def withArguments (i : Invocation) (plain valued : List Char) (failure : Nat)
    (go : Arguments → Routine Nat) : Routine Nat := do
  match sortArguments plain valued i.arguments.length i.arguments with
  | .ok arguments => go arguments
  | .error problem =>
    complain (i.name ++ ": " ++ problem ++ "\n" ++ seeHelp i.name)
    return failure

/-- Opens what an operand names for reading; a hyphen names the input of the program. -/
def openInput (operand : String) : Routine (Except Fault Nat) := do
  if operand = "-" then return .ok 0 else perform (.openFile operand .read)

/-- Closes what `openInput` opened. -/
def closeInput (descriptor : Nat) : Routine Unit := do
  if descriptor ≠ 0 then perform (.close descriptor)

/-- The inputs that operands name; without operands the input of the program. -/
def inputs (operands : List String) : List String := if operands = [] then ["-"] else operands

/-- Complains that something cannot be used. -/
def complainAbout (i : Invocation) (what : String) (fault : Fault) : Routine Unit :=
  complain (i.name ++ ": " ++ what ++ ": " ++ fault.message)

/-- Hands the bytes of each input to a step. The exit code says whether all could be read. -/
def forInputs {σ : Type} (i : Invocation) (operands : List String) (about : String → String)
    (step : σ → String → List UInt8 → Routine σ) (start : σ) : Routine (σ × Nat) :=
  (inputs operands).foldlM (fun (s, code) operand => do
    match ← openInput operand with
    | .error fault =>
      complainAbout i (about operand) fault
      return (s, 1)
    | .ok descriptor =>
      let bytes ← readAll descriptor
      closeInput descriptor
      match bytes with
      | .error fault =>
        complainAbout i (if operand = "-" then "-" else operand) fault
        return (s, 1)
      | .ok bytes => return (← step s operand bytes, code)) (start, 0)

/-- The bytes of all inputs together. -/
def allBytes (i : Invocation) (operands : List String) : Routine (List UInt8 × Nat) := do
  let (pieces, code) ← forInputs i operands id (fun pieces _ bytes => return bytes :: pieces) []
  return (pieces.reverse.flatten, code)

/-- The lines of some bytes without their ends. -/
def linesOf (bytes : List UInt8) : List (List UInt8) :=
  match (bytes.splitOn 10).reverse with
  | [] => []
  | last :: ended => ended.reverse ++ if last = [] then [] else [last]

/-- Lines with their ends. -/
def unlines (lines : List (List UInt8)) : List UInt8 := (lines.map (· ++ [10])).flatten

/-- A text between quotes, as programs show it in messages. -/
def shown (text : String) : String := "'" ++ text ++ "'"

end Tools

end PlainTerminal
