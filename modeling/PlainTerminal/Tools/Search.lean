import PlainTerminal.Tools.Lines
import PlainTerminal.Tools.Regex

/-!
# Programs that search

The lines in which a regular expression is found, and lines in which what it matches is replaced.
-/

namespace PlainTerminal.Tools

open Routine

/-- Writes the lines in which a pattern is found. -/
def grep : Tool := fun i =>
  withArguments i ['i', 'v', 'c', 'n', 'q', 'E', 'F', 'x', 'l', 'h', 'H', 's', 'w', 'o'] ['e', 'm'] 2
    fun a => do
      let (pattern, operands) := match a.value? 'e' with
        | some p => (some p, a.operands)
        | none => (a.operands.head?, a.operands.tail)
      match pattern with
      | none =>
        complain ("Usage: " ++ i.name ++ " [OPTION]... PATTERNS [FILE]...\n" ++ seeHelp i.name)
        return 2
      | some pattern =>
        let fold (text : String) : String := if a.has 'i' then text.toLower else text
        let regexes := ((fold pattern).toList.splitOn '\n').map fun chars =>
          let r := if a.has 'F' then Regex.exactly (String.ofList chars)
            else Regex.ofText (a.has 'E' || i.name == "egrep") (String.ofList chars)
          if a.has 'x' then r.wholeLine else r
        let found (l : Line) : Bool :=
          (regexes.any fun r => r.isIn (fold (Line.text l)).toList) != a.has 'v'
        let named := (1 < operands.length || a.has 'H') && !a.has 'h'
        let (hits, code) ← forInputs i operands id (fun hits operand bytes => do
          let lines := ((linesOf bytes).zipIdx 1).filter fun (l, _) => found l
          let lead := if named then bytesOf (operand ++ ":") else []
          if a.has 'q' then pure ()
          else if a.has 'l' then
            if !lines.isEmpty then say (operand ++ "\n") else pure ()
          else if a.has 'c' then
            discard (emitBytes 1 (lead ++ bytesOf (toString lines.length ++ "\n")))
          else
            let rows := lines.map fun (l, n) =>
              lead ++ (if a.has 'n' then bytesOf (toString n ++ ":") else []) ++ l
            discard (emitBytes 1 (unlines rows))
          return hits + lines.length) 0
        return if code ≠ 0 then 2 else if hits = 0 then 1 else 0

/-- A replacement for what was matched: `&` stands for all of it, and a backslash with a digit for
what a group matched. -/
def filledIn (found : List Char) (groups : Regex.Groups) : List Char → List Char
  | [] => []
  | '\x5c' :: 'n' :: rest => '\n' :: filledIn found groups rest
  | '\x5c' :: c :: rest =>
    if c.isDigit then
      (if c = '0' then found else (groups.lookup (c.toNat - 48)).getD []) ++
        filledIn found groups rest
    else c :: filledIn found groups rest
  | '&' :: rest => found ++ filledIn found groups rest
  | c :: rest => c :: filledIn found groups rest

/-- The text with the first match, or with all of them, replaced. -/
def substituted (r : Regex) (replacement : List Char) (all : Bool) :
    Nat → Nat → List Char → List Char
  | 0, _, text => text
  | n + 1, passed, text =>
    match r.find? passed text with
    | none => text
    | some m =>
      let found := (text.drop m.start).take m.size
      let here := text.take m.start ++ filledIn found m.groups replacement
      let rest := text.drop (m.start + m.size)
      let passed := passed + m.start + m.size
      if !all || rest.isEmpty then here ++ rest
      else if m.size = 0 then
        here ++ rest.take 1 ++ substituted r replacement all n (passed + 1) (rest.drop 1)
      else here ++ substituted r replacement all n passed rest

/-- What `sed` does with the lines that its command is for. -/
inductive EditKind where
  | print
  | delete
  | quit
  | substitute (regex : Regex) (replacement : List Char) (all : Bool) (prints : Bool)

/-- Which lines a command is for. -/
inductive Address where
  | every
  | number (n : Nat)
  | range (first last : Nat)
  | last
  | matching (regex : Regex)

/-- Splits at a delimiter that no backslash protects. -/
def splitUnescaped (delimiter : Char) : List Char → List (List Char)
  | [] => [[]]
  | '\x5c' :: c :: rest =>
    match splitUnescaped delimiter rest with
    | part :: parts => ((if c = delimiter then [c] else ['\x5c', c]) ++ part) :: parts
    | [] => [['\x5c', c]]
  | c :: rest =>
    if c = delimiter then [] :: splitUnescaped delimiter rest
    else match splitUnescaped delimiter rest with
      | part :: parts => (c :: part) :: parts
      | [] => [[c]]

/-- Reads the address at the front of a command. -/
def addressOf (chars : List Char) : Address × List Char :=
  match chars with
  | '$' :: rest => (.last, rest)
  | '/' :: rest =>
    let parts := splitUnescaped '/' rest
    let regex := parts.headD []
    (.matching (Regex.ofText false (String.ofList regex)), rest.drop (regex.length + 1))
  | _ =>
    let digits := chars.takeWhile Char.isDigit
    match (String.ofList digits).toNat? with
    | none => (.every, chars)
    | some n =>
      match chars.drop digits.length with
      | ',' :: rest =>
        let more := rest.takeWhile Char.isDigit
        match (String.ofList more).toNat? with
        | some m => (.range n m, rest.drop more.length)
        | none => (.range n (Nat.pow 10 12), rest.drop 1)
      | rest => (.number n, rest)

/-- Reads a command of `sed`. -/
def editOf (extended : Bool) (chars : List Char) : Option (Address × EditKind) :=
  let (address, rest) := addressOf (chars.dropWhile Char.isWhitespace)
  match rest with
  | ['p'] => some (address, .print)
  | ['d'] => some (address, .delete)
  | ['q'] => some (address, .quit)
  | 's' :: delimiter :: rest =>
    match splitUnescaped delimiter rest with
    | [pattern, replacement, marks] =>
      some (address, .substitute (Regex.ofText extended (String.ofList pattern)) replacement
        (marks.contains 'g') (marks.contains 'p'))
    | _ => none
  | _ => none

/-- Edits lines by one command. -/
def sed : Tool := fun i => withArguments i ['n', 'E', 'r'] ['e'] 1 fun a => do
  let (script, operands) := match a.value? 'e' with
    | some s => (s, a.operands)
    | none => (a.operands.headD "", a.operands.tail)
  match editOf (a.has 'E' || a.has 'r') script.toList with
  | none =>
    complain (i.name ++ ": -e expression #1, char " ++ toString script.length ++
      ": unknown command")
    return 1
  | some (address, edit) =>
    let (bytes, code) ← allBytes i operands
    let lines := linesOf bytes
    let isFor (l : Line) (n : Nat) : Bool :=
      match address with
      | .every => true
      | .number m => n = m
      | .range first last => first ≤ n && (n ≤ last || n = first)
      | .last => n = lines.length
      | .matching r => r.isIn (Line.text l).toList
    let usual (l : Line) : List Line := if a.has 'n' then [] else [l]
    let lines := match edit, address with
      | .quit, .number m => lines.take m
      | _, _ => lines
    let rows := (lines.zipIdx 1).flatMap fun (l, n) =>
      if !isFor l n then usual l
      else match edit with
        | .print => l :: usual l
        | .delete => []
        | .quit => usual l
        | .substitute r replacement all prints =>
          let text := (Line.text l).toList
          if !r.isIn text then usual l
          else
            let l := bytesOf (String.ofList (substituted r replacement all (text.length + 1) 0 text))
            (if prints then [l] else []) ++ usual l
    discard (emitBytes 1 (unlines rows))
    return code

end PlainTerminal.Tools
