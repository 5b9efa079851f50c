import PlainTerminal.Keyed
import PlainTerminal.Shell.Grammar

/-!
# Reading shell commands

A script is read line by line: a line with all the commands on it is read as a whole, and so are the
lines that a command goes on for, before anything of it runs. Reading goes through the characters
from front to back. The functions that call each other carry a number that bounds how deep they
nest; it is larger than the number of characters there are to read allows.
-/

namespace PlainTerminal.Shell

/-- An alias whose text is being read. -/
structure OpenAlias where
  name : String
  /-- The number of characters that come after its text. -/
  after : Nat
  /-- Its text ends in a blank, so the word after it may be an alias as well. -/
  goesOn : Bool

/-- What has not been read yet, and the number of the line where it begins. -/
structure Source where
  rest : List Char
  line : Nat := 1
  aliases : Keyed String := []
  opened : List OpenAlias := []
  /-- This is a text inside a script. -/
  isDocument : Bool := false
  /-- The number of lines that have been taken out from below the line at hand. -/
  takenOut : Nat := 0

/-- Why a script cannot be read. A word that cannot be where it is has not been read itself yet. -/
structure Problem where
  line : Nat
  message : String
  word : Option Source := none

/-- Reads something at the front of a script. -/
abbrev Reader := StateT Source (Except Problem)

namespace Reader

variable {α : Type}

/-! ## Characters -/

/-- Gives up. -/
def fail (message : String) : Reader α := do throw { line := (← get).line, message }

/-- Gives up because the script ends too early. -/
def failAtEnd (message : String) : Reader α := do
  let s ← get
  throw { line := s.line + s.rest.count '\n', message }

/-- What has not been read yet. -/
def rest : Reader (List Char) := do return (← get).rest

/-- Leaves out the next characters. -/
def skip (count : Nat) : Reader Unit := modify fun s =>
  let breaks := (s.rest.take count).count '\n'
  let rest := s.rest.drop count
  if breaks = 0 then { s with rest }
  else { s with rest, line := s.line + breaks + s.takenOut, takenOut := 0 }

/-- Reads characters as long as they are of a kind. -/
def takeWhile (isIn : Char → Bool) : Reader (List Char) := do
  let found := (← rest).takeWhile isIn
  skip found.length
  return found

/-- Characters that end a word. -/
def endsWord (c : Char) : Bool := [' ', '\t', '\n', ';', '&', '|', '<', '>', '(', ')'].contains c

/-- Characters that a name begins with. -/
def beginsName (c : Char) : Bool := c.isAlpha || c == '_'

/-- Characters of names. -/
def isNameChar (c : Char) : Bool := c.isAlphanum || c == '_'

/-- Parameters whose name is one sign. -/
def isSign (c : Char) : Bool := ['@', '*', '#', '?', '-', '$', '!'].contains c

/-- The number of characters at the front that separate words: blanks, line breaks that a backslash
takes away, and a comment. -/
def blankCount : List Char → Nat
  | ' ' :: rest => blankCount rest + 1
  | '\t' :: rest => blankCount rest + 1
  | '\x5c' :: '\n' :: rest => blankCount rest + 2
  | '#' :: rest => (rest.takeWhile (· ≠ '\n')).length + 1
  | _ => 0

/-- Leaves out blanks. -/
def skipBlanks : Reader Unit := do skip (blankCount (← rest))

/-- Leaves out blanks and line breaks, at most so many. -/
def skipLines : Nat → Reader Unit
  | 0 => pure ()
  | n + 1 => do
    skipBlanks
    if (← rest).head? = some '\n' then
      skip 1
      skipLines n

/-- Leaves out blanks and line breaks. -/
def skipAllLines : Reader Unit := do skipLines ((← rest).length + 1)

/-! ## Tokens -/

/-- The operators, the longer ones before those they begin with. -/
def operators : List String :=
  ["&&", "||", ";;", "<<-", "<<", ">>", "<&", ">&", "<>", ">|", "&", "|", ";", "<", ">", "(", ")",
    "\n"]

/-- Operators that change a descriptor. -/
def redirections : List String := ["<<-", "<<", ">>", "<&", ">&", "<>", ">|", "<", ">"]

/-- Words that are no names of commands. -/
def reservedWords : List String :=
  ["!", "\x7b", "\x7d", "case", "do", "done", "elif", "else", "esac", "fi", "for", "if", "in",
    "then", "until", "while"]

/-- The names of commands of the shell that end it when they go wrong, and keep what is set for them.
No function can have such a name. -/
def specialNames : List String :=
  [":", ".", "break", "continue", "eval", "exec", "exit", "export", "local", "readonly", "return",
    "set", "shift", "times", "trap", "unset"]

/-- Reserved words that end a list of commands. -/
def closingWords : List String := ["then", "else", "elif", "fi", "do", "done", "esac", "\x7d"]

/-- The operator at the front. -/
def operatorAt? (chars : List Char) : Option String :=
  operators.find? fun op => op.toList.isPrefixOf chars

/-- The reserved word at the front. -/
def reservedAt? (chars : List Char) : Option String :=
  let word := String.ofList (chars.takeWhile fun c => !endsWord c)
  if reservedWords.contains word then some word else none

/-- The descriptor that is written right before a redirection. -/
def descriptorAt? (chars : List Char) : Option (Option Nat × String) :=
  let digits := (chars.take 1).takeWhile Char.isDigit
  match operatorAt? (chars.drop digits.length) with
  | some op =>
    if redirections.contains op then some ((String.ofList digits).toNat?, op) else none
  | none => none

/-- What is at the front, in a message. -/
def tokenAt (chars : List Char) : String :=
  match chars with
  | [] => "end of file"
  | '\n' :: _ => "newline"
  | _ =>
    if (descriptorAt? chars).isSome then "redirection"
    else match operatorAt? chars with
    | some op => "\"" ++ op ++ "\""
    | none => "word"

/-- Something is at the front that cannot be there. Reserved words may count as such or not. -/
def unexpectedToken (hasReserved : Bool) (expected : String) : Reader α := do
  let s ← get
  let hint := if expected = "" then "" else " (expecting " ++ expected ++ ")"
  let token := match reservedAt? s.rest with
    | some word => if hasReserved then "\"" ++ word ++ "\"" else "word"
    | none => tokenAt s.rest
  throw {
    line := if token = "newline" then s.line + 1 else s.line
    message := "Syntax error: " ++ token ++ " unexpected" ++ hint
    word := if token = "word" then some s else none }

/-- Something is at the front that cannot be there. -/
def unexpected (expected : Option String) : Reader α :=
  unexpectedToken true (expected.elim "" fun e => "\"" ++ e ++ "\"")

/-- Reads an operator that has to be there. -/
def demandOperator (op : String) : Reader Unit := do
  skipBlanks
  if operatorAt? (← rest) = some op then skip op.length else unexpected (some op)

/-- Reads a reserved word that has to be there. -/
def demandReserved (word : String) : Reader Unit := do
  skipBlanks
  if reservedAt? (← rest) = some word then skip word.length else unexpected (some word)

/-- A list of commands ends here. -/
def isListEnd (chars : List Char) : Bool :=
  match operatorAt? chars with
  | some op => op == ")" || op == ";;"
  | none => chars.isEmpty || (reservedAt? chars).any closingWords.contains

/-! ## Words -/

/-- What an unquoted text comes to as a piece. -/
def plain (chars : List Char) : List Piece := if chars = [] then [] else [.text false chars]

/-- What a double-quoted text comes to as pieces: one that holds nothing is still a field. -/
def doubleQuoted (pieces : List Piece) : List Piece :=
  if pieces.isEmpty then [.text true []] else pieces

/-- The raw text up to the grave accent that ends it; a backslash is taken away before the
characters that it protects. -/
def graveBody (quoted : Bool) : List Char → Option (List Char × Nat)
  | [] => none
  | '\x60' :: _ => some ([], 1)
  | '\x5c' :: c :: rest =>
    (graveBody quoted rest).map fun (body, n) =>
      (if c = '\x60' ∨ c = '\x5c' ∨ c = '$' ∨ (quoted = true ∧ c = '\x22') then c :: body
        else '\x5c' :: c :: body, n + 2)
  | c :: rest => (graveBody quoted rest).map fun (body, n) => (c :: body, n + 1)

/-- The lines of a text that is part of the script, up to the line that ends it, and the lines after
that if it is there. -/
def documentLines (strip : Bool) (ending : List Char) :
    List (List Char) → List (List Char) × Option (List (List Char))
  | [] => ([], none)
  | line :: rest =>
    let line := if strip then line.dropWhile (· == '\t') else line
    if line = ending then ([], some rest)
    else
      let (body, after) := documentLines strip ending rest
      (line :: body, after)

/-- Takes a text that is part of the script out of the lines that follow. -/
def cutDocument (strip : Bool) (ending : List Char) : Reader (List Char) := do
  let chars ← rest
  let here := chars.takeWhile (· ≠ '\n')
  let below := chars.drop (here.length + 1)
  let (body, after) := documentLines strip ending
    (if below = [] then [] else below.splitOn '\n')
  match after with
  | none =>
    modify fun s => { s with rest := here }
    return ['\n'].intercalate body
  | some after =>
    modify fun s => { s with
      rest := here ++ '\n' :: ['\n'].intercalate after
      takenOut := s.takenOut + body.length + 1 }
    return (body.map (· ++ ['\n'])).flatten

/-- What a redirection operator does. -/
def kindOf (op : String) : RedirectionKind :=
  match op with
  | "<" => .input
  | ">>" => .append
  | ">|" => .overwrite
  | "<>" => .both
  | "<&" | ">&" => .duplicate
  | "<<" | "<<-" => .document
  | _ => .output

/-- The name that is set at the front, if something is. -/
def assignmentAt? (chars : List Char) : Option String :=
  match chars with
  | c :: _ =>
    let name := chars.takeWhile isNameChar
    if beginsName c && chars[name.length]? == some '=' then some (String.ofList name) else none
  | [] => none

/-- The user whose home directory is at the front: nobody in particular if the name is empty. A
character may end the name besides those that always do. -/
def homeAt? (ending : Option Char) (chars : List Char) : Option (List Char) :=
  match chars with
  | '~' :: rest =>
    let ends (c : Char) : Bool := c == '/' || endsWord c || ending == some c
    let isQuote (c : Char) : Bool := ['\x22', '\x27', '\x60', '\x5c', '$'].contains c
    let user := rest.takeWhile fun c => !ends c && !isQuote c
    if (rest.drop user.length).head?.any isQuote then none else some user
  | _ => none

/-- Puts the text of an alias in the place of its name at the front, as long as there is one. An alias
does not count in its own text. -/
def openAliases : Nat → Reader Unit
  | 0 => pure ()
  | n + 1 => do
    skipBlanks
    let s ← get
    let word := s.rest.takeWhile fun c => !endsWord c
    let name := String.ofList word
    match Keyed.find? s.aliases name with
    | none => pure ()
    | some text =>
      let opened := s.opened.filter (·.after < s.rest.length)
      if opened.any (·.name = name) then pure ()
      else
        let after := s.rest.drop word.length
        let goesOn := text.toList.getLast?.any fun c => c == ' ' || c == '\t'
        set { s with
          rest := text.toList ++ after
          opened := ⟨name, after.length, goesOn⟩ :: opened }
        openAliases n

/-- Leaves out blanks; if the text of an alias that goes on ends there, what follows may be one. -/
def skipToWord (n : Nat) : Reader Unit := do
  let before := (← rest).length
  skipBlanks
  let s ← get
  if s.opened.any fun a => a.goesOn && a.after < before && s.rest.length ≤ a.after then
    openAliases n

/-- The text of a word without its quotes, if it holds no expansion. -/
def literal? : Word → Option (List Char)
  | [] => some []
  | .text _ chars :: rest => (literal? rest).map (chars ++ ·)
  | _ => none

/-- Some piece of a word is quoted. -/
def isQuoted (w : Word) : Bool :=
  w.any fun
    | .text quoted _ => quoted
    | _ => false

mutual

/-- Reads what follows a dollar sign. -/
def readExpansion (quoted : Bool) : Nat → Reader (List Piece)
  | 0 => fail "Syntax error: nested too deep"
  | n + 1 => do
    match ← rest with
    | '(' :: '(' :: _ =>
      skip 2
      return [.arithmetic quoted (← readArithmetic 0 [] n)]
    | '(' :: _ =>
      skip 1
      let body ← readList false n
      demandOperator ")"
      return [.substitution quoted body]
    | '\x7b' :: _ =>
      skip 1
      return [← readBraced quoted n]
    | c :: _ =>
      if beginsName c then
        return [.parameter quoted (String.ofList (← takeWhile isNameChar)) .value []]
      else if c.isDigit || isSign c then
        skip 1
        return [.parameter quoted (String.ofList [c]) .value []]
      else return [.text quoted ['$']]
    | [] => return [.text quoted ['$']]

/-- Reads an arithmetic expansion up to its end. -/
def readArithmetic (depth : Nat) (chars : List Char) : Nat → Reader (List Piece)
  | 0 => fail "Syntax error: nested too deep"
  | n + 1 => do
    let flushed := plain chars.reverse
    match ← rest with
    | [] => fail "Syntax error: Missing '))'"
    | ')' :: after =>
      if depth ≠ 0 then
        skip 1
        readArithmetic (depth - 1) (')' :: chars) n
      else if after.head? = some ')' then
        skip 2
        return flushed
      else
        skip 1
        readArithmetic 0 (')' :: chars) n
    | '(' :: _ =>
      skip 1
      readArithmetic (depth + 1) ('(' :: chars) n
    | '$' :: _ =>
      skip 1
      return flushed ++ (← readExpansion true n) ++ (← readArithmetic depth [] n)
    | '\x60' :: _ =>
      return flushed ++ (← readGrave true n) ++ (← readArithmetic depth [] n)
    | '\x5c' :: c :: _ =>
      skip 2
      if c = '\n' then readArithmetic depth chars n
      else if ['$', '\x60', '\x22', '\x5c'].contains c then readArithmetic depth (c :: chars) n
      else readArithmetic depth (c :: '\x5c' :: chars) n
    | c :: _ =>
      skip 1
      readArithmetic depth (c :: chars) n

/-- Reads a command in grave accents. -/
def readGrave (quoted : Bool) : Nat → Reader (List Piece)
  | 0 => fail "Syntax error: nested too deep"
  | n + 1 => do
    match graveBody quoted ((← rest).drop 1) with
    | none => failAtEnd "Syntax error: EOF in backquote substitution"
    | some (body, count) =>
      let here ← get
      set { here with rest := body, line := 1 }
      let command ← readList false n
      if !(← rest).isEmpty then unexpected none
      set here
      skip (count + 1)
      return [.substitution quoted command]

/-- Reads a parameter in braces. -/
def readBraced (quoted : Bool) : Nat → Reader Piece
  | 0 => fail "Syntax error: nested too deep"
  | n + 1 => do
    let isLength : Bool :=
      match ← rest with
      | '#' :: c :: after => isNameChar c || c != '\x7d' && after.head? == some '\x7d'
      | _ => false
    if isLength then skip 1
    let name ← match ← rest with
      | c :: _ =>
        if beginsName c then takeWhile isNameChar
        else if c.isDigit then takeWhile Char.isDigit
        else if isSign c then do
          skip 1
          pure [c]
        else pure []
      | [] => pure []
    let name := String.ofList name
    let (orEmpty, after) := match ← rest with
      | ':' :: after => (true, after)
      | after => (false, after)
    let mark := if orEmpty then 1 else 0
    let (use, count) : Use × Nat := match after with
      | '\x7d' :: _ => if orEmpty then (.value, 2) else (if isLength then .length else .value, 0)
      | '-' :: _ => (.default orEmpty, mark + 1)
      | '=' :: _ => (.assign orEmpty, mark + 1)
      | '?' :: _ => (.demand orEmpty, mark + 1)
      | '+' :: _ => (.alternative orEmpty, mark + 1)
      | '%' :: '%' :: _ => (.withoutBack true, 2)
      | '%' :: _ => (.withoutBack false, 1)
      | '#' :: '#' :: _ => (.withoutFront true, 2)
      | '#' :: _ => (.withoutFront false, 1)
      | _ => (.unknown, 0)
    skip count
    let isTrimming : Bool :=
      match use with
      | .withoutBack _ | .withoutFront _ => true
      | _ => false
    let home ← match homeAt? (some '\x7d') (← rest) with
      | some user =>
        if quoted then pure []
        else do
          skip (user.length + 1)
          pure [.home user false]
      | none => pure []
    let word ← readBracedWord (quoted && !isTrimming) false [] n
    let isKnown : Bool := name ≠ "" && (!isLength || use == .length)
    return .parameter quoted name (if isKnown then use else .unknown) (home ++ word)

/-- Reads a word up to the closing brace. In a quoted one double quotes may be around a part in which
no brace closes. -/
def readBracedWord (quoted isInner : Bool) (chars : List Char) : Nat → Reader (List Piece)
  | 0 => fail "Syntax error: nested too deep"
  | n + 1 => do
    let flushed : List Piece := if chars = [] then [] else [.text quoted chars.reverse]
    match ← rest with
    | [] =>
      fail (if quoted && !(← get).isDocument then "Syntax error: Unterminated quoted string"
        else "Syntax error: Missing '\x7d'")
    | '$' :: _ =>
      skip 1
      return flushed ++ (← readExpansion quoted n) ++ (← readBracedWord quoted isInner [] n)
    | '\x60' :: _ =>
      return flushed ++ (← readGrave quoted n) ++ (← readBracedWord quoted isInner [] n)
    | '\x22' :: _ =>
      skip 1
      if quoted then
        return flushed ++ (← readBracedWord quoted (!isInner) [] n)
      else
        return flushed ++ doubleQuoted (← readDouble [] n) ++ (← readBracedWord quoted isInner [] n)
    | '\x27' :: after =>
      if quoted then
        skip 1
        readBracedWord quoted isInner ('\x27' :: chars) n
      else
        let body := after.takeWhile (· ≠ '\x27')
        if body.length = after.length then failAtEnd "Syntax error: Unterminated quoted string"
        skip (body.length + 2)
        return flushed ++ [.text true body] ++ (← readBracedWord quoted isInner [] n)
    | '\x5c' :: c :: _ =>
      skip 2
      if c = '\n' then readBracedWord quoted isInner chars n
      else if quoted && !(['$', '\x60', '\x22', '\x5c', '\x7d'].contains c) then
        readBracedWord quoted isInner (c :: '\x5c' :: chars) n
      else return flushed ++ [.text true [c]] ++ (← readBracedWord quoted isInner [] n)
    | c :: _ =>
      skip 1
      if c = '\x7d' ∧ isInner = false then return flushed
      else readBracedWord quoted isInner (c :: chars) n

/-- Reads up to the closing double quote. -/
def readDouble (chars : List Char) : Nat → Reader (List Piece)
  | 0 => fail "Syntax error: nested too deep"
  | n + 1 => do
    let flushed : List Piece := if chars = [] then [] else [.text true chars.reverse]
    match ← rest with
    | [] => fail "Syntax error: Unterminated quoted string"
    | '\x22' :: _ =>
      skip 1
      return flushed
    | '$' :: _ =>
      skip 1
      return flushed ++ (← readExpansion true n) ++ (← readDouble [] n)
    | '\x60' :: _ => return flushed ++ (← readGrave true n) ++ (← readDouble [] n)
    | '\x5c' :: c :: _ =>
      skip 2
      if c = '\n' then readDouble chars n
      else if ['$', '\x60', '\x22', '\x5c'].contains c then readDouble (c :: chars) n
      else readDouble (c :: '\x5c' :: chars) n
    | c :: _ =>
      skip 1
      readDouble (c :: chars) n

/-- Reads a word, or the value of a variable; none is an empty list of pieces. -/
def readWord (inValue : Bool) (chars : List Char) : Nat → Reader Word
  | 0 => fail "Syntax error: nested too deep"
  | n + 1 => do
    let flushed := plain chars.reverse
    match ← rest with
    | [] => return flushed
    | '\x22' :: _ =>
      skip 1
      return flushed ++ doubleQuoted (← readDouble [] n) ++ (← readWord inValue [] n)
    | '\x27' :: after =>
      let body := after.takeWhile (· ≠ '\x27')
      if body.length = after.length then failAtEnd "Syntax error: Unterminated quoted string"
      skip (body.length + 2)
      return flushed ++ [.text true body] ++ (← readWord inValue [] n)
    | '$' :: _ =>
      skip 1
      return flushed ++ (← readExpansion false n) ++ (← readWord inValue [] n)
    | '\x60' :: _ => return flushed ++ (← readGrave false n) ++ (← readWord inValue [] n)
    | ['\x5c'] =>
      skip 1
      return flushed ++ [.text true ['\x5c']]
    | '\x5c' :: c :: _ =>
      skip 2
      if c = '\n' then readWord inValue chars n
      else return flushed ++ [.text true [c]] ++ (← readWord inValue [] n)
    | c :: after =>
      if endsWord c then return flushed
      else
        skip 1
        if inValue && c == ':' && (homeAt? (some ':') after).isSome then
          return plain (':' :: chars).reverse ++ (← readWordOrHome true n)
        else readWord inValue (c :: chars) n

/-- Reads a word, or the value of a variable, at whose front `~` stands for a home directory. -/
def readWordOrHome (inValue : Bool) : Nat → Reader Word
  | 0 => fail "Syntax error: nested too deep"
  | n + 1 => do
    match homeAt? (if inValue then some ':' else none) (← rest) with
    | some user =>
      skip (user.length + 1)
      return .home user inValue :: (← readWord inValue [] n)
    | none => readWord inValue [] n

/-- Reads the redirections at the front. -/
def readRedirections : Nat → Reader (List Redirection)
  | 0 => fail "Syntax error: nested too deep"
  | n + 1 => do
    skipBlanks
    match descriptorAt? (← rest) with
    | none => return []
    | some _ => return (← readRedirection n) :: (← readRedirections n)

/-- Reads a redirection that is at the front. -/
def readRedirection : Nat → Reader Redirection
  | 0 => fail "Syntax error: nested too deep"
  | n + 1 => do
    match descriptorAt? (← rest) with
    | none => unexpected none
    | some (descriptor, op) =>
      if descriptor.isSome then skip 1
      skip op.length
      skipBlanks
      if (descriptorAt? (← rest)).isSome then unexpected none
      let target ← readWordOrHome false n
      if target.isEmpty then unexpectedToken false ""
      let above ← get
      let kind := kindOf op
      let usual := if op.front = '<' then 0 else 1
      match kind with
      | .document =>
        let body ← cutDocument (op = "<<-") ((literal? target).getD [])
        let pieces ← if isQuoted target then pure [.text true body] else do
          let here ← get
          set { here with
            rest := body, line := above.line + above.takenOut + 1, isDocument := true }
          let pieces ← readDocument [] n
          set here
          pure pieces
        return .mk (descriptor.getD usual) kind pieces
      | _ => return .mk (descriptor.getD usual) kind target

/-- Reads a text that is part of the script and in which expansions take place. -/
def readDocument (chars : List Char) : Nat → Reader (List Piece)
  | 0 => fail "Syntax error: nested too deep"
  | n + 1 => do
    let flushed : List Piece := if chars = [] then [] else [.text true chars.reverse]
    match ← rest with
    | [] => return flushed
    | '$' :: _ =>
      skip 1
      return flushed ++ (← readExpansion true n) ++ (← readDocument [] n)
    | '\x60' :: _ => return flushed ++ (← readGrave true n) ++ (← readDocument [] n)
    | '\x5c' :: c :: _ =>
      skip 2
      if c = '\n' then readDocument chars n
      else if ['$', '\x60', '\x5c'].contains c then readDocument (c :: chars) n
      else readDocument (c :: '\x5c' :: chars) n
    | c :: _ =>
      skip 1
      readDocument (c :: chars) n

/-- Reads the rest of a simple command, of which something has been read. The command is at the line
where its first word ends. -/
def readSimple (line : Option Nat) (assignments : List (String × Word)) (words : List Word)
    (redirected : List Redirection) : Nat → Reader Command
  | 0 => fail "Syntax error: nested too deep"
  | n + 1 => do
    if words.isEmpty then
      if !(assignments.isEmpty && redirected.isEmpty) then openAliases n
    else skipToWord n
    skipBlanks
    let chars ← rest
    let complete : Command :=
      .simple (line.getD 1) assignments.reverse words.reverse redirected.reverse
    if (descriptorAt? chars).isSome then
      let here := (← get).line
      let next ← readRedirection n
      readSimple (some (line.getD here)) assignments words (next :: redirected) n
    else if chars.head? = some '(' then
      match assignments, words, redirected with
      | [], [name], [] =>
        skip 1
        skipBlanks
        if operatorAt? (← rest) = some ")" then skip 1 else unexpectedToken false "\")\""
        match literal? name with
        | some name =>
          if name.all isNameChar = true ∧ name.head?.any beginsName = true ∧
              specialNames.contains (String.ofList name) = false then
            skipAllLines
            return .define (String.ofList name) (← readCommand n)
          else fail "Syntax error: Bad function name"
        | none => fail "Syntax error: Bad function name"
      | _, _, _ => return complete
    else if (operatorAt? chars).isSome || chars.isEmpty then
      if assignments.isEmpty && words.isEmpty && redirected.isEmpty then unexpected none
      else return complete
    else
      match assignmentAt? chars with
      | some name =>
        skip (name.length + 1)
        let value ← readWordOrHome true n
        let line := some (line.getD (← get).line)
        if words.isEmpty then
          readSimple line ((name, value) :: assignments) [] redirected n
        else
          let word := .text false (name.toList ++ ['=']) :: value
          readSimple line assignments (word :: words) redirected n
      | none =>
        let word ← readWordOrHome false n
        readSimple (some (line.getD (← get).line)) assignments (word :: words) redirected n

/-- Reads a command that is not a pipeline. -/
def readCommand : Nat → Reader Command
  | 0 => fail "Syntax error: nested too deep"
  | n + 1 => do
    openAliases n
    let line := (← get).line
    let chars ← rest
    let finish (body : Command) : Reader Command := do
      match ← readRedirections n with
      | [] => return body
      | redirected => return .redirected line body redirected
    if operatorAt? chars = some "(" then
      skip 1
      let body ← readBody n
      demandOperator ")"
      finish (.subshell line body)
    else match reservedAt? chars with
      | none => readSimple none [] [] [] n
      | some word =>
        skip word.length
        match word with
        | "\x7b" =>
          let body ← readBody n
          demandReserved "\x7d"
          match body, ← readRedirections n with
          | body, [] => return body
          | .redirected _ (.subshell here inner) _, redirected =>
            return .redirected line (.subshell here inner) redirected
          | body, redirected => return .redirected line body redirected
        | "if" => finish (← readConditional n)
        | "while" | "until" =>
          let test ← readBody n
          demandReserved "do"
          let body ← readBody n
          demandReserved "done"
          finish (.loop (word = "while") test body)
        | "for" =>
          skipBlanks
          let name ← takeWhile isNameChar
          if name.head?.any beginsName = false then fail "Syntax error: Bad for loop variable"
          skipAllLines
          let words ← if reservedAt? (← rest) = some "in" then do
              skip 2
              pure (some (← readFields n))
            else pure none
          skipBlanks
          if operatorAt? (← rest) = some ";" then skip 1
          skipAllLines
          demandReserved "do"
          let body ← readBody n
          demandReserved "done"
          finish (.each line (String.ofList name) words body)
        | "case" =>
          skipBlanks
          let subject ← readWordOrHome false n
          if subject.isEmpty then unexpectedToken false "word"
          skipAllLines
          demandReserved "in"
          let cases ← readCases n
          finish (.choose line subject cases)
        | _ =>
          set { (← get) with rest := chars }
          unexpected none

/-- Reads the words that a loop goes through. -/
def readFields : Nat → Reader (List Word)
  | 0 => fail "Syntax error: nested too deep"
  | n + 1 => do
    skipBlanks
    let chars ← rest
    if (operatorAt? chars).isSome || chars.isEmpty then
      if chars.head? = some ';' ∨ chars.head? = some '\n' then return []
      else unexpected none
    else
      let word ← readWordOrHome false n
      return word :: (← readFields n)

/-- Reads what follows `if` or `elif`. -/
def readConditional : Nat → Reader Command
  | 0 => fail "Syntax error: nested too deep"
  | n + 1 => do
    let test ← readBody n
    demandReserved "then"
    let thenBody ← readBody n
    skipBlanks
    match reservedAt? (← rest) with
    | some "elif" =>
      skip 4
      return .conditional test thenBody (← readConditional n)
    | some "else" =>
      skip 4
      let elseBody ← readBody n
      demandReserved "fi"
      return .conditional test thenBody elseBody
    | _ =>
      demandReserved "fi"
      return .conditional test thenBody .nothing

/-- Reads the cases of a choice. -/
def readCases : Nat → Reader (List (List Word × Command))
  | 0 => fail "Syntax error: nested too deep"
  | n + 1 => do
    skipAllLines
    let chars ← rest
    if reservedAt? chars = some "esac" then
      skip 4
      return []
    else
      if chars.head? = some '(' then skip 1
      let patterns ← readPatterns n
      let body ← readList false n
      skipBlanks
      if operatorAt? (← rest) = some ";;" then
        skip 2
        return (patterns, body) :: (← readCases n)
      else
        if reservedAt? (← rest) = some "esac" then
          skip 4
          return [(patterns, body)]
        else unexpected (some ";;")

/-- Reads the patterns of a case. -/
def readPatterns : Nat → Reader (List Word)
  | 0 => fail "Syntax error: nested too deep"
  | n + 1 => do
    skipBlanks
    let pattern ← readWordOrHome false n
    if pattern.isEmpty then
      match operatorAt? (← rest) with
      | some op => skip op.length
      | none => pure ()
    skipBlanks
    match operatorAt? (← rest) with
    | some "|" =>
      skip 1
      return pattern :: (← readPatterns n)
    | some ")" =>
      skip 1
      return [pattern]
    | _ => unexpectedToken false "\")\""

/-- Reads commands joined by pipes. -/
def readPipeline : Nat → Reader Command
  | 0 => fail "Syntax error: nested too deep"
  | n + 1 => do
    skipBlanks
    let negated : Bool := reservedAt? (← rest) == some "!"
    if negated then skip 1
    let first ← readCommand n
    let others ← readStages n
    if others.isEmpty && !negated then return first
    else return .pipeline negated (first :: others)

/-- Reads the commands after pipes. -/
def readStages : Nat → Reader (List Command)
  | 0 => fail "Syntax error: nested too deep"
  | n + 1 => do
    skipBlanks
    if operatorAt? (← rest) = some "|" then
      skip 1
      skipAllLines
      let stage ← readCommand n
      return stage :: (← readStages n)
    else return []

/-- Reads pipelines joined by `&&` and `||`, of which the first has been read. -/
def readConnected (first : Command) : Nat → Reader Command
  | 0 => fail "Syntax error: nested too deep"
  | n + 1 => do
    skipBlanks
    let go (how : Connective) : Reader Command := do
      skip 2
      skipAllLines
      readConnected (.connected how first (← readPipeline n)) n
    match operatorAt? (← rest) with
    | some "&&" => go .and
    | some "||" => go .or
    | _ => return first

/-- Reads a list of commands, up to a line break or to something that ends every list. -/
def readList (isLine : Bool) : Nat → Reader Command
  | 0 => fail "Syntax error: nested too deep"
  | n + 1 => do
    if isLine then skipBlanks else skipAllLines
    let chars ← rest
    if isListEnd chars then return .nothing
    else if isLine && chars.head? = some '\n' then return .nothing
    else
      let first ← readConnected (← readPipeline n) n
      skipBlanks
      match operatorAt? (← rest) with
      | some "&" =>
        skip 1
        return Command.andThen (.background first) (← readList isLine n)
      | some ";" =>
        skip 1
        return Command.andThen first (← readList isLine n)
      | some "\n" =>
        if isLine then return first
        else return Command.andThen first (← readList isLine n)
      | _ => return first

/-- Reads a list of commands that must not be empty. -/
def readBody : Nat → Reader Command
  | 0 => fail "Syntax error: nested too deep"
  | n + 1 => do
    skipAllLines
    let chars ← rest
    if isListEnd chars && !chars.isEmpty then unexpected none
    readList false n

end

/-- How deep the functions above may nest for so many characters. -/
def depthFor (chars : List Char) : Nat := 16 * (chars.length + 16)

/-- Reads something; a word that cannot be where it is has to be one at least. -/
def checkingWords (body : Reader α) : Reader α :=
  tryCatch body fun problem => do
    match problem.word with
    | none => throw problem
    | some source =>
      set source
      discard (readWord false [] (depthFor source.rest))
      throw { problem with line := (← get).line, word := none }

/-- Reads the commands of the next line that has any; nothing at the end of the script. -/
def nextLine : Reader (Option Command) := checkingWords do
  skipAllLines
  if (← rest).isEmpty then return none
  let command ← readList true (depthFor (← rest))
  skipBlanks
  let chars ← rest
  if chars.isEmpty || chars.head? = some '\n' then return some command
  else unexpected none

end Reader

end PlainTerminal.Shell
