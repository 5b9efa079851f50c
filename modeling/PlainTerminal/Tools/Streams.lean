import PlainTerminal.Shell.Format
import PlainTerminal.Shell.Pattern
import PlainTerminal.Tools.Invocation

/-!
# Programs that pass bytes on

They read their input piece by piece and write what becomes of it as soon as they can, so that they
work in the middle of a pipe whose ends never come.
-/

namespace PlainTerminal.Tools

open Routine

/-- Copies a descriptor to the output. -/
def copyThrough (descriptor : Nat) : Routine (Except Fault Unit) := do
  let r ← consume descriptor (fun _ bytes => do discard (emitBytes 1 bytes)) ()
  return r.map fun _ => ()

/-- Writes its inputs one after the other. -/
def cat : Tool := fun i =>
  withArguments i ['u', 'n', 'b', 's', 'v', 'e', 't', 'A', 'E', 'T'] [] 1 fun a => do
    if a.has 'n' then
      let (bytes, code) ← allBytes i a.operands
      let lines := (linesOf bytes).zipIdx 1 |>.map fun (line, n) =>
        Shell.Format.Layout.number { width := 6 } "" (toString n) ++ [9] ++ line
      discard (emitBytes 1 (unlines lines))
      return code
    else
      (inputs a.operands).foldlM (fun code operand => do
        match ← openInput operand with
        | .error fault =>
          complainAbout i operand fault
          return 1
        | .ok descriptor =>
          let r ← copyThrough descriptor
          closeInput descriptor
          match r with
          | .ok () => return code
          | .error fault =>
            complainAbout i operand fault
            return 1) 0

/-- Writes its input to the output and to files. -/
def tee : Tool := fun i => withArguments i ['a', 'i'] [] 1 fun a => do
  let mode : OpenMode := if a.has 'a' then .append else .write
  let (descriptors, code) ← a.operands.foldlM (fun (ds, code) operand => do
    match ← perform (.openFile operand mode) with
    | .ok d => return (d :: ds, code)
    | .error fault =>
      complainAbout i operand fault
      return (ds, 1)) ([], 0)
  let _ ← consume 0 (fun _ bytes => do
    discard (emitBytes 1 bytes)
    for d in descriptors do
      discard (emitBytes d bytes)) ()
  return code

/-- Writes a line again and again, until nobody reads it. -/
def yes : Tool := fun i => do
  let line := bytesOf (" ".intercalate (if i.arguments = [] then ["y"] else i.arguments) ++ "\n")
  let copies := max 1 (8192 / line.length)
  let block := (List.replicate copies line).flatten
  repeatUntil (fun () => do
    if ← emitBytes 1 block then return .inl () else return .inr 1) ()

/-- The number of bytes up to and with the given number of line ends, after some that have been
counted, and how many line ends are missing. -/
def lineOffset : Nat → List UInt8 → Nat → Nat × Nat
  | 0, _, counted => (counted, 0)
  | n, [], counted => (counted, n)
  | n + 1, b :: rest, counted => lineOffset (if b = 10 then n else n + 1) rest (counted + 1)

/-- The bytes up to and with the given number of line ends, and how many line ends are missing. -/
def takeLines (n : Nat) (bytes : List UInt8) : List UInt8 × Nat :=
  let (size, missing) := lineOffset n bytes 0
  (bytes.take size, missing)

/-- The number that an option such as `-n 5` or `-5` gives. -/
def countOf (value : String) : Option (Option Char × Nat) :=
  match value.toList with
  | '-' :: rest => (String.ofList rest).toNat?.map fun n => (some '-', n)
  | '+' :: rest => (String.ofList rest).toNat?.map fun n => (some '+', n)
  | _ => value.toNat?.map fun n => (none, n)

/-- Arguments in which a number of lines is spelled out as an option. -/
def spelledOut (arguments : List String) : List String :=
  match arguments with
  | a :: rest =>
    match a.toList with
    | '-' :: d :: digits =>
      if d.isDigit && digits.all Char.isDigit then
        "-n" :: String.ofList (d :: digits) :: rest
      else arguments
    | _ => arguments
  | [] => []

/-- Passes on so much of a descriptor. -/
def passOn (descriptor : Nat) (ofBytes : Bool) (count : Nat) : Routine Unit :=
  if count = 0 then pure ()
  else repeatUntil (fun left => do
    match ← perform (.read descriptor (if ofBytes then left else blockSize)) with
    | .error _ | .ok [] => return .inr ()
    | .ok bytes =>
      let (taken, missing) :=
        if ofBytes then (bytes.take left, left - bytes.length) else takeLines left bytes
      discard (emitBytes 1 taken)
      return if missing = 0 then .inr () else .inl missing) count

/-- The line above the lines of a file, when several are shown. -/
def banner (operand : String) (isFirst : Bool) : String :=
  (if isFirst then "" else "\n") ++ "==> " ++ (if operand = "-" then "standard input" else operand) ++
    " <==\n"

/-- Complains that a file cannot be opened. -/
def complainOpening (i : Invocation) (operand : String) (fault : Fault) : Routine Unit :=
  complain (i.name ++ ": cannot open " ++ shown operand ++ " for reading: " ++ fault.message)

/-- Shows each input under its banner if there are several. -/
def showEach (i : Invocation) (a : Arguments) (body : Nat → Routine Unit) : Routine Nat := do
  let several := !a.has 'q' && (1 < a.operands.length || a.has 'v')
  let (_, code) ← (inputs a.operands).foldlM (fun (isFirst, code) operand => do
    match ← openInput operand with
    | .error fault =>
      complainOpening i operand fault
      return (isFirst, 1)
    | .ok descriptor =>
      if several then say (banner operand isFirst)
      body descriptor
      closeInput descriptor
      return (false, code)) (true, 0)
  return code

/-- Complains about a number that is none. -/
def complainCount (i : Invocation) (ofBytes : Bool) (value : String) : Routine Nat := do
  complain (i.name ++ ": invalid number of " ++ (if ofBytes then "bytes" else "lines") ++ ": " ++
    shown value)
  return 1

/-- Shows the beginning of its inputs. -/
def head : Tool := fun i =>
  withArguments { i with arguments := spelledOut i.arguments } ['q', 'v', 'z'] ['n', 'c'] 1
    fun a => do
      let ofBytes := a.has 'c'
      let value := ((a.value? 'c').orElse fun _ => a.value? 'n').getD "10"
      match countOf value with
      | none => complainCount i ofBytes value
      | some (some '-', n) =>
        showEach i a fun descriptor => do
          let bytes := (← readAll descriptor).toOption.getD []
          let kept := if ofBytes then bytes.take (bytes.length - n)
            else
              let lines := (linesOf bytes).length
              (takeLines (lines - n) bytes).1
          discard (emitBytes 1 kept)
      | some (_, n) => showEach i a fun descriptor => passOn descriptor ofBytes n

/-- Shows the end of its inputs. -/
def tail : Tool := fun i =>
  withArguments { i with arguments := spelledOut i.arguments } ['q', 'v', 'z', 'f'] ['n', 'c'] 1
    fun a => do
      let ofBytes := a.has 'c'
      let value := ((a.value? 'c').orElse fun _ => a.value? 'n').getD "10"
      match countOf value with
      | none => complainCount i ofBytes value
      | some (sign, n) =>
        showEach i a fun descriptor => do
          let bytes := (← readAll descriptor).toOption.getD []
          let size := if ofBytes then bytes.length else (linesOf bytes).length
          let left := if sign = some '+' then n - 1 else size - n
          let dropped := if ofBytes then left else (lineOffset left bytes 0).1
          discard (emitBytes 1 (bytes.drop dropped))

/-- Counts of some bytes. -/
structure Counts where
  lines : Nat := 0
  words : Nat := 0
  chars : Nat := 0
  bytes : Nat := 0

/-- The bytes that separate words. -/
def isBlankByte (b : UInt8) : Bool := b = 32 || (9 ≤ b && b ≤ 13)

/-- Counts one more byte; the flag says whether a word goes on. -/
def Counts.step (s : Counts × Bool) (b : UInt8) : Counts × Bool :=
  let (c, inWord) := s
  let starts := !inWord && !isBlankByte b
  ({ lines := c.lines + if b = 10 then 1 else 0
     words := c.words + if starts then 1 else 0
     chars := c.chars + 1
     bytes := c.bytes + 1 }, !isBlankByte b)

/-- Counts of both. -/
def Counts.plus (a b : Counts) : Counts :=
  ⟨a.lines + b.lines, a.words + b.words, a.chars + b.chars, a.bytes + b.bytes⟩

/-- Counts lines, words and bytes. -/
def wc : Tool := fun i => withArguments i ['l', 'w', 'c', 'm', 'L'] [] 1 fun a => do
  let all := !a.has 'l' && !a.has 'w' && !a.has 'c' && !a.has 'm'
  let (counted, code) ← forInputs i a.operands id (fun found operand bytes =>
    return (operand, (bytes.foldl Counts.step ({}, false)).1) :: found) []
  let counted := counted.reverse
  let total := counted.foldl (fun t c => t.plus c.2) {}
  let rows := if 1 < (inputs a.operands).length then counted ++ [("total", total)] else counted
  let columns (c : Counts) : List Nat :=
    (if all || a.has 'l' then [c.lines] else []) ++ (if all || a.has 'w' then [c.words] else []) ++
      (if a.has 'm' then [c.chars] else []) ++ (if all || a.has 'c' then [c.bytes] else [])
  let width :=
    if (columns {}).length = 1 && (inputs a.operands).length ≤ 1 then 1
    else if (inputs a.operands).contains "-" then 7
    else (toString total.bytes).length
  for (operand, c) in rows do
    let numbers := (columns c).map fun n =>
      let digits := toString n
      String.ofList (List.replicate (width - digits.length) ' ') ++ digits
    let label := if a.operands = [] then "" else " " ++ operand
    say (" ".intercalate numbers ++ label ++ "\n")
  return code

/-! ## Exchange of bytes -/

/-- The bytes that a set of `tr` names. -/
def byteSet : Nat → List Char → List UInt8
  | 0, _ => []
  | _, [] => []
  | n + 1, '[' :: ':' :: rest =>
    let name := String.ofList (rest.takeWhile (· ≠ ':'))
    let ranges := Shell.Pattern.classRanges name
    let bytes := ((List.range 128).filter fun b =>
      ranges.any fun r => r.1.toNat ≤ b && b ≤ r.2.toNat).map UInt8.ofNat
    bytes ++ byteSet n (rest.drop (name.length + 2))
  | n + 1, chars =>
    let (first, rest) := unit chars
    match rest with
    | '-' :: c :: more =>
      let (last, rest) := unit (c :: more)
      let lo := (first.head?.getD 0).toNat
      let hi := (last.head?.getD 0).toNat
      ((List.range (hi + 1 - lo)).map fun k => UInt8.ofNat (lo + k)) ++ byteSet n rest
    | _ => first ++ byteSet n rest
where
  /-- One character, or what an escape stands for. -/
  unit : List Char → List UInt8 × List Char
    | '\x5c' :: c :: rest =>
      let (bytes, left) := Shell.Format.escape (c :: rest)
      if bytes = [92] ∧ c ≠ '\x5c' then (Shell.Format.bytesOfChar c, rest) else (bytes, left)
    | c :: rest => (Shell.Format.bytesOfChar c, rest)
    | [] => ([], [])

/-- The byte in place of another one; the last one of a short list goes on. -/
def exchanged (source target : List UInt8) (b : UInt8) : UInt8 :=
  match source.idxOf? b with
  | none => b
  | some n => target[n]?.getD (target.getLast?.getD b)

/-- Bytes in which runs of one byte of a set are one byte; the state is the last byte. -/
def squeezed (set : List UInt8) : Option UInt8 → List UInt8 → List UInt8
  | _, [] => []
  | last, b :: rest =>
    if last = some b ∧ set.contains b = true then squeezed set last rest
    else b :: squeezed set (some b) rest

/-- Replaces, deletes and squeezes bytes. -/
def tr : Tool := fun i => withArguments i ['d', 's', 'c', 'C', 't'] [] 1 fun a => do
  let set (text : String) : List UInt8 := byteSet (text.length + 1) text.toList
  let first := set (a.operands.headD "")
  let first := if a.has 'c' || a.has 'C' then
    ((List.range 256).map UInt8.ofNat).filter fun b => !first.contains b else first
  let second := set (a.operands.tail.headD "")
  if a.operands = [] then
    complain (i.name ++ ": missing operand\n" ++ seeHelp i.name)
    return 1
  else if a.operands.length = 1 ∧ a.has 'd' = false ∧ a.has 's' = false then
    complain (i.name ++ ": missing operand after " ++ shown (a.operands.headD "") ++
      "\nTwo strings must be given when translating.\n" ++ seeHelp i.name)
    return 1
  else if a.operands.length = 1 ∧ a.has 'd' = true ∧ a.has 's' = true then
    complain (i.name ++ ": missing operand after " ++ shown (a.operands.headD "") ++
      "\nTwo strings must be given when both deleting and squeezing repeats.\n" ++ seeHelp i.name)
    return 1
  else if a.operands.length = 2 ∧ a.has 'd' = true ∧ a.has 's' = false then
    complain (i.name ++ ": extra operand " ++ shown (a.operands.getLastD "") ++
      "\nOnly one string may be given when deleting without squeezing repeats.\n" ++
      seeHelp i.name)
    return 1
  else if 2 < a.operands.length then
    complain (i.name ++ ": extra operand " ++ shown ((a.operands.drop 2).headD "") ++ "\n" ++
      seeHelp i.name)
    return 1
  else
    let _ ← consume 0 (fun last bytes => do
      let bytes :=
        if a.has 'd' then bytes.filter fun b => !first.contains b
        else if a.operands.length < 2 then bytes
        else bytes.map (exchanged first second)
      let bytes := if a.has 's' then
          squeezed (if a.operands.length < 2 then first else second) last bytes
        else bytes
      discard (emitBytes 1 bytes)
      return bytes.getLast?.orElse fun _ => last) none
    return 0

/-! ## Waiting -/

/-- The microseconds that a number of seconds with an optional fraction comes to. -/
def microseconds? (chars : List Char) : Option Nat :=
  let whole := chars.takeWhile Char.isDigit
  let fraction := (chars.drop whole.length).drop 1
  let isNumber : Bool := (chars.drop whole.length).head?.all (· == '.') && fraction.all Char.isDigit &&
    !(whole.isEmpty && fraction.isEmpty)
  if isNumber then
    (String.ofList (whole ++ (fraction ++ List.replicate 6 '0').take 6)).toNat?
  else none

/-- The microseconds that an interval with an optional unit lasts. -/
def interval? (text : String) : Option Nat :=
  let chars := text.toList
  let (digits, unit) := match chars.getLast? with
    | some 's' => (chars.dropLast, 1)
    | some 'm' => (chars.dropLast, 60)
    | some 'h' => (chars.dropLast, 3600)
    | some 'd' => (chars.dropLast, 86400)
    | _ => (chars, 1)
  (microseconds? digits).map (· * unit)

/-- Waits. -/
def sleep : Tool := fun i => do
  if i.arguments = [] then
    complain (i.name ++ ": missing operand\n" ++ seeHelp i.name)
    return 1
  match i.arguments.find? fun a => (interval? a).isNone with
  | some a =>
    complain (i.name ++ ": invalid time interval " ++ shown a ++ "\n" ++ seeHelp i.name)
    return 1
  | none =>
    perform (.sleep ((i.arguments.filterMap interval?).foldl (· + ·) 0))
    return 0

end PlainTerminal.Tools
