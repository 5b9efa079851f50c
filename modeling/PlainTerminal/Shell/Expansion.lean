import PlainTerminal.Shell.Arithmetic
import PlainTerminal.Shell.Pattern
import PlainTerminal.Shell.State
import PlainTerminal.Text.Utf8

/-!
# Expansion of words

A word comes to a list of *bits*: characters, marked as quoted or as open to cutting, and the places
where a field begins or ends whatever is around. The bits are cut into fields at the separators, and
a field that holds a pattern is replaced by the names of the files it matches, if there are any.

How the output of a command is found is left to whoever expands a word.
-/

namespace PlainTerminal.Shell

/-- A bit of an expanded word. -/
inductive Bit where
  /-- A character; one that comes from an unquoted expansion may separate fields. -/
  | letter (l : Letter) (maySeparate : Bool)
  /-- There is a field here, even if nothing else is. -/
  | mark
  /-- One field ends here and another one begins. -/
  | cut
deriving DecidableEq, Repr

namespace Bit

/-- A text as bits. -/
def ofChars (quoted maySeparate : Bool) (chars : List Char) : List Bit :=
  (if quoted then [mark] else []) ++ chars.map fun c => letter ⟨c, quoted⟩ maySeparate

/-- The letters among some bits; where fields are cut there is a blank. -/
def letters (bits : List Bit) : List Letter :=
  bits.filterMap fun
    | letter l _ => some l
    | mark => none
    | cut => some ⟨' ', true⟩

/-- The same bits as the result of an expansion. -/
def separable (bits : List Bit) : List Bit :=
  bits.map fun
    | letter l _ => letter l (!l.quoted)
    | b => b

end Bit

/-- The state of cutting: the fields so far, the field under construction, and whether the last field
was ended by blanks, so that another separator may still belong to its end. -/
structure Cutter where
  fields : List (List Letter) := []
  current : Option (List Letter) := none
  isLoose : Bool := false

namespace Cutter

/-- Ends the field under construction. -/
def close (c : Cutter) (isLoose : Bool) : Cutter :=
  match c.current with
  | some letters => ⟨letters.reverse :: c.fields, none, isLoose⟩
  | none => { c with isLoose := c.isLoose && isLoose }

/-- Takes one more bit. -/
def step (separators : List Char) (c : Cutter) (b : Bit) : Cutter :=
  match b with
  | .mark => { c with current := some (c.current.getD []), isLoose := false }
  | .cut => c.close false
  | .letter l maySeparate =>
    if maySeparate && separators.contains l.char then
      if l.char.isWhitespace then
        match c.current with
        | some _ => c.close true
        | none => c
      else match c.current with
        | some _ => c.close false
        | none => if c.isLoose then { c with isLoose := false }
          else { c with fields := [] :: c.fields }
    else { c with current := some (l :: c.current.getD []), isLoose := false }

/-- The fields that bits are cut into. -/
def fieldsOf (separators : List Char) (bits : List Bit) : List (List Letter) :=
  ((bits.foldl (step separators) {}).close false).fields.reverse

end Cutter

namespace Expansion

/-- The paths below a directory that match the segments of a pattern. -/
def matchesFrom : List (List Letter) → String → Routine (List String)
  | [], base => return [base]
  | segment :: rest, base => do
    let joined (name : String) : String :=
      if base = "" ∨ base.toList.getLast? = some '/' then base ++ name else base ++ "/" ++ name
    let slash (path : String) : String := if rest.isEmpty then path else path ++ "/"
    if Pattern.isIn segment then
      match ← Routine.perform (.list (if base = "" then "." else base)) with
      | .error _ => return []
      | .ok names =>
        let chosen := Pattern.select (Pattern.ofWord segment) ("." :: ".." :: names)
        return (← chosen.mapM fun name => matchesFrom rest (slash (joined name))).flatten
    else
      let path := joined (Letter.spell segment)
      if rest.isEmpty then
        match ← Routine.perform (.look (if path = "" then "." else path)) with
        | .ok _ => return [path]
        | .error _ => return []
      else matchesFrom rest (slash path)

/-- The file names that a field stands for; without any it stands for itself. -/
def fileNames (letters : List Letter) : Work (List String) := do
  let itself := Letter.spell letters
  if (← get).options.hasNoPatterns || !Pattern.isIn letters then return [itself]
  let segments := letters.splitOnP fun l => l.char == '/'
  match ← act (matchesFrom segments "") with
  | [] => return [itself]
  | paths => return paths

/-- The text of an output as part of a word: line breaks at its end do not count. -/
def outputText (bytes : List UInt8) : List Char :=
  let bytes := (bytes.reverse.dropWhile (· == 10)).reverse.filter (· ≠ 0)
  (Text.Utf8.decodeLossy bytes).toList

/-- Texts that stand for positional parameters as bits. -/
def argumentBits (name : String) (quoted : Bool) (texts : List (List Char)) : Work (List Bit) := do
  if quoted && name == "*" then
    let joint := (← get).fieldSeparators.take 1
    return Bit.ofChars true false (joint.intercalate texts)
  else
    return (texts.map (Bit.ofChars quoted (!quoted))).intersperse [.cut] |>.flatten

/-- Texts without what is taken away from all of them together. -/
def trimmed (trim : List Char → List Char) (texts : List (List Char)) : List (List Char) :=
  if texts = [] then [] else (trim (['\x00'].intercalate texts)).splitOn '\x00'

/-- The value of an arithmetic expression; variables that it sets are set. -/
def arithmetic (expression : List Char) : Work String := do
  let s ← get
  let text := String.ofList expression
  match Expression.evalText s.valueOf? expression with
  | .error fault => abort (fault.message text)
  | .ok (value, set) =>
    for (name, n) in set.reverse do
      assign name (toString n)
    return toString value

/-- The bits that the pieces of a word come to. The number bounds how deep words nest. -/
def bits (output : Command → Work (List UInt8)) : Nat → List Piece → Work (List Bit)
  | 0, _ => abort "word nested too deep"
  | _, [] => return []
  | n + 1, piece :: rest => do
    let first ← match piece with
      | .text quoted chars => pure (Bit.ofChars quoted false chars)
      | .home user _ => do
        let s ← get
        let directory := if user = [] then s.valueOf? "HOME"
          else Files.homes.lookup (String.ofList user)
        match directory with
        | some directory => pure (Bit.ofChars true false directory.toList)
        | none => pure (Bit.ofChars false false ('~' :: user))
      | .arithmetic quoted expression => do
        let expression ← bits output n expression
        let value ← arithmetic ((Bit.letters expression).map (·.char))
        pure (Bit.ofChars quoted (!quoted) value.toList)
      | .substitution quoted body => do
        pure (Bit.ofChars quoted (!quoted) (outputText (← output body)))
      | .parameter quoted name use word => do
        let s ← get
        let isList : Bool := name == "@" || name == "*"
        let texts := s.arguments.map String.toList
        let value := if isList then
            some (String.ofList ((s.fieldSeparators.take 1).intercalate texts))
          else s.parameter? name
        let missing (orEmpty : Bool) : Bool := value.isNone || (orEmpty && value == some "")
        let without (trim : List Char → List Char) : Work (List Bit) := do
          if isList then
            return (if quoted then [.mark] else []) ++ (← argumentBits name quoted (trimmed trim texts))
          else if value.isNone && s.options.demandsValues then abort (name ++ ": parameter not set")
          else return Bit.ofChars quoted (!quoted) (trim (value.getD "").toList)
        let itself : Work (List Bit) := do
          if isList then argumentBits name quoted texts
          else match value with
            | some text => pure (Bit.ofChars quoted (!quoted) text.toList)
            | none =>
              if s.options.demandsValues then abort (name ++ ": parameter not set")
              else pure (Bit.ofChars quoted (!quoted) [])
        let present : Work (List Bit) := do
          return (if quoted then [.mark] else []) ++ (← itself)
        let instead : Work (List Bit) := do
          let other ← bits output n word
          pure (if quoted then .mark :: other else Bit.separable other)
        match use with
        | .value => itself
        | .length =>
          if value.isNone && s.options.demandsValues then abort (name ++ ": parameter not set")
          let size := (value.getD "").utf8ByteSize
          pure (Bit.ofChars quoted (!quoted) (toString size).toList)
        | .default orEmpty => if missing orEmpty then instead else present
        | .assign orEmpty =>
          if missing orEmpty then
            let other ← instead
            if !(name.toList.head?.any fun c => c.isAlpha || c == '_') then
              abort (name ++ ": bad variable name")
            let text := Letter.spell (Bit.letters other)
            assign name text
            pure (Bit.ofChars quoted (!quoted) text.toList)
          else present
        | .demand orEmpty =>
          if missing orEmpty then
            let message := Letter.spell (Bit.letters (← bits output n word))
            abort (name ++ ": " ++ if !word.isEmpty then message
              else if orEmpty then "parameter not set or null" else "parameter not set")
          else present
        | .alternative orEmpty =>
          if missing orEmpty then pure (if quoted then [.mark] else []) else instead
        | .withoutFront longest => do
          let pattern := Pattern.ofWord (Bit.letters (← bits output n word))
          without (Pattern.dropFront longest pattern)
        | .withoutBack longest => do
          let pattern := Pattern.ofWord (Bit.letters (← bits output n word))
          without (Pattern.dropBack longest pattern)
        | .unknown => abort "Bad substitution"
    return first ++ (← bits output n rest)

/-- A number that bounds how deep words nest. -/
def depth : Nat := 1000000

/-- The letters that a word comes to when it is not cut into fields. -/
def letters (output : Command → Work (List UInt8)) (w : Word) : Work (List Letter) := do
  return Bit.letters (← bits output depth w)

/-- The text that a word comes to when it is not cut into fields. -/
def text (output : Command → Work (List UInt8)) (w : Word) : Work String := do
  return Letter.spell (← letters output w)

/-- The fields that a word comes to. -/
def fields (output : Command → Work (List UInt8)) (w : Word) : Work (List String) := do
  let bits ← bits output depth w.outsideValue
  let found ← (Cutter.fieldsOf (← get).fieldSeparators bits).mapM fileNames
  return found.flatten

/-- The fields that the words of a command come to. Where the fields before it say that a word may be a
value, and it looks like one, it is not cut. -/
def commandFields (output : Command → Work (List UInt8)) (takesValues : List String → Bool) :
    List Word → List String → Work (List String)
  | [], before => return before
  | w :: ws, before => do
    let found ← if takesValues before && w.assigned?.isSome then do pure [← text output w]
      else fields output w
    commandFields output takesValues ws (before ++ found)

end Expansion

end PlainTerminal.Shell
