import PlainTerminal.Shell.Arithmetic
import PlainTerminal.Shell.State

/-!
# Conditions

What `test` finds out about texts, numbers and files. With up to four arguments their number says
how they are to be read; longer conditions are made of shorter ones with `-a` and `-o`. Reading goes
from one argument to the next: what has been read of a list ends with its first element.
-/

namespace PlainTerminal.Shell.Condition

/-- What a condition comes to; a message if it makes no sense. -/
abbrev Verdict := ExceptT String Routine Bool

/-- What is at a path, if anything is. -/
def look (path : String) : ExceptT String Routine (Option Entry) := do
  match ← liftM (Routine.perform (.look path)) with
  | .ok e => return some e
  | .error _ => return none

/-- The operators with one operand. -/
def unaryOperators : List String :=
  ["-n", "-z", "-e", "-f", "-d", "-s", "-r", "-w", "-x", "-p", "-h", "-L", "-b", "-c", "-S", "-u",
    "-g", "-k", "-t", "-O", "-G"]

/-- The operators with two operands. -/
def binaryOperators : List String :=
  ["=", "!=", "<", ">", "-eq", "-ne", "-lt", "-le", "-gt", "-ge", "-nt", "-ot", "-ef"]

/-- The number that an operand spells. It has to fit 64 bits. -/
def number (text : String) : ExceptT String Routine Int :=
  let chars := text.toList.dropWhile Char.isWhitespace
  let chars := (chars.reverse.dropWhile Char.isWhitespace).reverse
  let (isNegative, digits) := match chars with
    | '-' :: rest => (true, rest)
    | '+' :: rest => (false, rest)
    | rest => (false, rest)
  let n := (String.ofList digits).toNat?.getD 0
  if digits.isEmpty || !digits.all Char.isDigit || Expression.largest < n then
    throw ("Illegal number: " ++ text)
  else return if isNegative then -(n : Int) else n

/-- A condition with one operand. -/
def unary (op operand : String) : Verdict := do
  match op with
  | "-n" => return operand ≠ ""
  | "-z" => return operand = ""
  | "-t" =>
    discard (number operand)
    return false
  | _ =>
    match ← look operand with
    | none => return false
    | some e =>
      match op with
      | "-e" | "-r" | "-w" | "-O" | "-G" => return true
      | "-f" =>
        match e with
        | .file _ => return true
        | _ => return false
      | "-d" => return e = .directory
      | "-x" => return e = .directory || Files.isAmongPrograms operand
      | "-s" =>
        match e with
        | .file bytes => return !bytes.isEmpty
        | .directory => return true
        | .device _ => return false
      | "-c" =>
        match e with
        | .device _ => return true
        | _ => return false
      | _ => return false

/-- A condition with two operands. -/
def binary (a op b : String) : Verdict := do
  match op with
  | "=" => return a = b
  | "!=" => return a ≠ b
  | "<" => return a < b
  | ">" => return b < a
  | "-eq" => return (← number a) = (← number b)
  | "-ne" => return (← number a) ≠ (← number b)
  | "-lt" => return (← number a) < (← number b)
  | "-le" => return (← number a) ≤ (← number b)
  | "-gt" => return (← number b) < (← number a)
  | "-ge" => return (← number b) ≤ (← number a)
  | "-ef" =>
    let here : String ← liftM (Routine.perform .directory)
    return (← look a).isSome && (← look b).isSome && Path.segments here a == Path.segments here b
  | _ => return false

/-- What an argument is where a condition may begin. -/
inductive Role where
  | missing
  | text
  | unaryOperator
  | binaryOperator
  | not
  | and
  | or
  | opening
  | closing
deriving DecidableEq, Repr

/-- What the first of some arguments is. An operator with one operand that has none, or stands where a
text is compared, is a text. -/
def Role.ofFront : List String → Role
  | [] => .missing
  | "!" :: _ => .not
  | "-a" :: _ => .and
  | "-o" :: _ => .or
  | ["("] => .text
  | "(" :: _ => .opening
  | ")" :: _ => .closing
  | op :: rest =>
    if binaryOperators.contains op then .binaryOperator
    else if unaryOperators.contains op then
      match rest with
      | [] => .text
      | [_] => .unaryOperator
      | next :: _ => if binaryOperators.contains next then .text else .unaryOperator
    else .text

mutual

/-- Reads conditions that are joined by `-o`. -/
def readOr (role : Role) (ts : List String) :
    Nat → ExceptT String Routine (Bool × List String)
  | 0 => throw "argument expected"
  | n + 1 => do
    let (a, ts) ← readAnd role ts n
    if Role.ofFront (ts.drop 1) = .or then
      let (b, ts) ← readOr (Role.ofFront (ts.drop 2)) (ts.drop 2) n
      return (a || b, ts)
    else return (a, ts)

/-- Reads conditions that are joined by `-a`. -/
def readAnd (role : Role) (ts : List String) :
    Nat → ExceptT String Routine (Bool × List String)
  | 0 => throw "argument expected"
  | n + 1 => do
    let (a, ts) ← readNot role ts n
    if Role.ofFront (ts.drop 1) = .and then
      let (b, ts) ← readAnd (Role.ofFront (ts.drop 2)) (ts.drop 2) n
      return (a && b, ts)
    else return (a, ts)

/-- Reads a condition that `!` may precede. -/
def readNot (role : Role) (ts : List String) :
    Nat → ExceptT String Routine (Bool × List String)
  | 0 => throw "argument expected"
  | n + 1 => do
    if role = .not then
      let next := Role.ofFront (ts.drop 1)
      let (a, ts) ← readNot next (if next = .missing then ts else ts.drop 1) n
      return (!a, ts)
    else readPrimary role ts n

/-- Reads a condition in parentheses, one with an operator, or a text. -/
def readPrimary (role : Role) (ts : List String) :
    Nat → ExceptT String Routine (Bool × List String)
  | 0 => throw "argument expected"
  | n + 1 => do
    match role, ts with
    | .missing, _ | _, [] => return (false, ts)
    | .opening, _ :: inner =>
      if Role.ofFront inner = .closing then return (false, inner)
      let (a, ts) ← readOr (Role.ofFront inner) inner n
      if Role.ofFront (ts.drop 1) = .closing then return (a, ts.drop 1)
      else throw "closing paren expected"
    | .unaryOperator, op :: rest =>
      match rest with
      | [] => throw (op ++ ": argument expected")
      | operand :: _ => return (← unary op operand, rest)
    | _, a :: rest =>
      if Role.ofFront rest = .binaryOperator then
        match rest with
        | op :: b :: after => return (← binary a op b, b :: after)
        | op :: _ => throw (op ++ ": argument expected")
        | [] => return (a ≠ "", ts)
      else return (a ≠ "", ts)

end

/-- Finds out whether a condition that has arguments holds. -/
def evaluate (role : Role) (ts : List String) : Verdict := do
  let (a, ts) ← readOr role ts (8 * (ts.length + 1))
  match ts with
  | a :: _ :: _ => throw (if a = "" then "unexpected operator" else a ++ ": unexpected operator")
  | _ => return a

/-- Finds out whether a condition holds. With three arguments an operator in the middle comes first,
and with three or four a negation or parentheses around the rest. -/
def holds : List String → Verdict
  | [] => return false
  | [a, op, b] =>
    if binaryOperators.contains op then evaluate .text [a, op, b]
    else if a = "(" ∧ b = ")" then evaluate (Role.ofFront [op]) [op]
    else if a = "!" then do return !(← evaluate (Role.ofFront [op, b]) [op, b])
    else evaluate (Role.ofFront [a, op, b]) [a, op, b]
  | [a, b, c, d] =>
    if a = "(" ∧ d = ")" then evaluate (Role.ofFront [b, c]) [b, c]
    else if a = "!" then do
      if binaryOperators.contains c then return !(← evaluate .text [b, c, d])
      else if b = "(" ∧ d = ")" then return !(← evaluate (Role.ofFront [c]) [c])
      else if b = "!" then return !(← evaluate (Role.ofFront [c, d]) [c, d])
      else return !(← evaluate (Role.ofFront [b, c, d]) [b, c, d])
    else evaluate (Role.ofFront [a, b, c, d]) [a, b, c, d]
  | ts => evaluate (Role.ofFront ts) ts

end PlainTerminal.Shell.Condition
