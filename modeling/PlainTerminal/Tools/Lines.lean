import PlainTerminal.Text.Utf8
import PlainTerminal.Tools.Streams

/-!
# Programs that work on lines

They read all of their input, take it for lines, and write lines.
-/

namespace PlainTerminal.Tools

open Routine

/-- A line. -/
abbrev Line := List UInt8

/-- The text that a line spells; what is no text is replaced. -/
def Line.text (l : Line) : String := Text.Utf8.decodeLossy l

/-! ## Order -/

/-- A small letter in place of a capital one. -/
def lowerByte (b : UInt8) : UInt8 := if 65 ≤ b && b ≤ 90 then b + 32 else b

/-- A byte that is a decimal digit. -/
def isDigitByte (b : UInt8) : Bool := 48 ≤ b && b ≤ 57

/-- The number at the front of a line, in units of the twelfth decimal place. -/
def leadingNumber (l : Line) : Int :=
  let l := l.dropWhile isBlankByte
  let (negative, l) := match l with
    | 45 :: rest => (true, rest)
    | _ => (false, l)
  let value (digits : Line) : Nat := digits.foldl (fun n b => n * 10 + (b.toNat - 48)) 0
  let whole := l.takeWhile isDigitByte
  let fraction := match l.drop whole.length with
    | 46 :: rest => (rest.takeWhile isDigitByte).take 12
    | _ => []
  let n : Int := (value whole * Nat.pow 10 12 + value fraction * Nat.pow 10 (12 - fraction.length) : Nat)
  if negative then -n else n

/-- The fields of a line: what lies between separators, or else runs of blanks with what follows
them. -/
def fieldsOf (separator : Option UInt8) (l : Line) : List Line :=
  match separator with
  | some b => l.splitOn b
  | none => go (l.length + 1) l
where
  /-- The fields of what is left. -/
  go : Nat → Line → List Line
    | 0, _ => []
    | _, [] => []
    | n + 1, l =>
      let blanks := l.takeWhile isBlankByte
      let word := (l.drop blanks.length).takeWhile fun b => !isBlankByte b
      (blanks ++ word) :: go n (l.drop (blanks.length + word.length))

/-- A key of `sort`: its first field and the field it ends with, and how it is compared. -/
structure SortKey where
  first : Nat
  last : Option Nat
  numeric : Bool
  reverse : Bool
deriving DecidableEq, Repr

/-- The key that an option such as `2,3n` names. -/
def SortKey.ofText (text : String) : SortKey :=
  let parts := text.toList.splitOn ','
  let number (chars : List Char) : Nat :=
    ((String.ofList (chars.takeWhile Char.isDigit)).toNat?).getD 1
  { first := number (parts.headD [])
    last := parts.tail.head?.map number
    numeric := text.toList.contains 'n'
    reverse := text.toList.contains 'r' }

/-- The part of a line that a key names. -/
def SortKey.part (k : SortKey) (separator : Option UInt8) (l : Line) : Line :=
  let fields := (fieldsOf separator l).drop (k.first - 1)
  let fields := match k.last with
    | some last => fields.take (last + 1 - k.first)
    | none => fields
  (separator.elim [] fun b => [b]).intercalate fields

/-- The order of two byte strings. -/
def compareBytes : List UInt8 → List UInt8 → Ordering
  | [], [] => .eq
  | [], _ => .lt
  | _, [] => .gt
  | a :: as, b :: bs => if a < b then .lt else if b < a then .gt else compareBytes as bs

/-- Sorts lines. -/
def sort : Tool := fun i =>
  withArguments i ['r', 'n', 'u', 'f', 'b', 's', 'g', 'd', 'c', 'V', 'h'] ['k', 't', 'o'] 2
    fun a => do
      let (pieces, code) ← forInputs { i with name := i.name ++ ": cannot read" } a.operands id
        (fun pieces _ bytes => return bytes :: pieces) []
      if code ≠ 0 then return 2
      let bytes := pieces.reverse.flatten
      let separator := (a.value? 't').bind fun t => (bytesOf t).head?
      let keys := (a.options.filter (·.1 == 'k')).map fun o => SortKey.ofText o.2
      let keys := if keys.isEmpty then [⟨1, none, false, false⟩] else keys
      let compareParts (k : SortKey) (x y : Line) : Ordering :=
        let (x, y) := (k.part separator x, k.part separator y)
        let order :=
          if k.numeric || a.has 'n' || a.has 'g' then compare (leadingNumber x) (leadingNumber y)
          else
            let fold (l : Line) : Line :=
              let l := if a.has 'b' then l.dropWhile isBlankByte else l
              if a.has 'f' then l.map lowerByte else l
            compareBytes (fold x) (fold y)
        if k.reverse then order.swap else order
      let byKeys (x y : Line) : Ordering :=
        keys.foldl (fun order k => order.then (compareParts k x y)) .eq
      let order (x y : Line) : Ordering :=
        let order := (byKeys x y).then
          (if a.has 's' || a.has 'u' then .eq else compareBytes x y)
        if a.has 'r' then order.swap else order
      let sorted := (linesOf bytes).mergeSort fun x y => order x y != .gt
      let kept := if a.has 'u' then
          (sorted.foldl (fun kept l =>
            match kept with
            | last :: _ => if byKeys last l = .eq then kept else l :: kept
            | [] => [l]) []).reverse
        else sorted
      match a.value? 'o' with
      | none => discard (emitBytes 1 (unlines kept))
      | some path =>
        match ← perform (.openFile path .write) with
        | .ok d => discard (emitBytes d (unlines kept))
        | .error fault => complainAbout i path fault
      return 0

/-- Writes each run of equal lines once. -/
def uniq : Tool := fun i => withArguments i ['c', 'd', 'u', 'i'] ['f', 's'] 1 fun a => do
  let (bytes, code) ← allBytes i (a.operands.take 1)
  let same (x y : Line) : Bool :=
    if a.has 'i' then x.map lowerByte == y.map lowerByte else x == y
  let runs := ((linesOf bytes).foldl (fun runs l =>
    match runs with
    | (last, n) :: rest => if same last l then (last, n + 1) :: rest else (l, 1) :: runs
    | [] => [(l, 1)]) []).reverse
  let runs := runs.filter fun (_, n) => (!a.has 'd' || 1 < n) && (!a.has 'u' || n = 1)
  let rows := runs.map fun (l, n) =>
    if a.has 'c' then
      Shell.Format.Layout.number { width := 7 } "" (toString (n : Nat)) ++ [32] ++ l
    else l
  discard (emitBytes 1 (unlines rows))
  return code

/-! ## Parts of lines -/

/-- The closed ranges that a list such as `1,3-5` names. -/
def rangesOf (text : String) : Option (List (Nat × Option Nat)) :=
  (text.toList.splitOn ',').mapM fun part =>
    match part.splitOn '-' with
    | [n] => (String.ofList n).toNat?.map fun n => (n, some n)
    | [lo, hi] =>
      let lo := if lo = [] then some 1 else (String.ofList lo).toNat?
      lo.bind fun lo =>
        if hi = [] then some (lo, none) else (String.ofList hi).toNat?.map fun hi => (lo, some hi)
    | _ => none

/-- The number is in one of the ranges. -/
def inRanges (ranges : List (Nat × Option Nat)) (n : Nat) : Bool :=
  ranges.any fun (lo, hi) => lo ≤ n && hi.all (n ≤ ·)

/-- Writes parts of lines. -/
def cut : Tool := fun i => withArguments i ['s', 'n'] ['b', 'c', 'f', 'd'] 1 fun a => do
  let list := ((a.value? 'f').orElse fun _ => a.value? 'c').orElse fun _ => a.value? 'b'
  match list.bind rangesOf with
  | none =>
    complain (i.name ++ ": you must specify a list of bytes, characters, or fields\n" ++
      seeHelp i.name)
    return 1
  | some ranges =>
    let (bytes, code) ← allBytes i a.operands
    let chosen (parts : List Line) : List Line :=
      (parts.zipIdx 1).filterMap fun (part, n) => if inRanges ranges n then some part else none
    let rows := (linesOf bytes).filterMap fun l =>
      if (a.value? 'f').isSome then
        let delimiter := ((a.value? 'd').bind fun d => (bytesOf d).head?).getD 9
        if !l.contains delimiter then if a.has 's' then none else some l
        else some ([delimiter].intercalate (chosen (l.splitOn delimiter)))
      else some (chosen (l.map fun b => [b])).flatten
    discard (emitBytes 1 (unlines rows))
    return code

/-- Writes lines backwards. -/
def rev : Tool := fun i => do
  let (bytes, code) ← allBytes i i.arguments
  let rows := (linesOf bytes).map fun l => bytesOf (String.ofList (Line.text l).toList.reverse)
  discard (emitBytes 1 (unlines rows))
  return code

/-- Writes lines, the last one first. -/
def tac : Tool := fun i => do
  let (bytes, code) ← allBytes i i.arguments
  discard (emitBytes 1 (unlines (linesOf bytes).reverse))
  return code

/-! ## Numbers and names -/

/-- Writes the numbers of a range. -/
def seq : Tool := fun i => do
  let (separator, arguments) := match i.arguments with
    | "-s" :: s :: rest => (s, rest)
    | a :: rest =>
      if "-s".toList.isPrefixOf a.toList then (String.ofList (a.toList.drop 2), rest)
      else ("\n", a :: rest)
    | [] => ("\n", [])
  match arguments.mapM String.toInt? with
  | none =>
    let wrong := (arguments.find? fun t => t.toInt?.isNone).getD ""
    complain (i.name ++ ": invalid floating point argument: " ++ shown wrong ++ "\n" ++
      seeHelp i.name)
    return 1
  | some [] =>
    complain (i.name ++ ": missing operand\n" ++ seeHelp i.name)
    return 1
  | some numbers =>
    let (first, step, last) : Int × Int × Int := match numbers with
      | [last] => (1, 1, last)
      | [first, last] => (first, 1, last)
      | first :: step :: last :: _ => (first, step, last)
      | [] => (1, 1, 0)
    if step = 0 then
      complain (i.name ++ ": invalid Zero increment value: '0'\n" ++ seeHelp i.name)
      return 1
    let count := ((last - first) / step + 1).toNat
    repeatUntil (fun k => do
      if count ≤ k then
        if 0 < count ∧ separator ≠ "\n" then say "\n"
        return .inr 0
      let block := min 512 (count - k)
      let texts := (List.range block).map fun n =>
        (if separator ≠ "\n" ∧ k + n ≠ 0 then separator else "") ++
          toString (first + step * (k + n : Nat)) ++ (if separator = "\n" then "\n" else "")
      if ← emit 1 (String.join texts) then return .inl (k + block) else return .inr 1) 0

/-- Writes the last segment of a path. -/
def basename : Tool := fun i => do
  match i.arguments with
  | [] =>
    complain (i.name ++ ": missing operand\n" ++ seeHelp i.name)
    return 1
  | path :: rest =>
    let short := Path.withoutEndSlashes path
    let name := if path = "" then "" else if short = "" then "/"
      else String.ofList (short.toList.reverse.takeWhile (· ≠ '/')).reverse
    let ending := rest.headD ""
    let name := if ending ≠ "" ∧ name ≠ ending ∧ ending.toList.isSuffixOf name.toList = true then
        String.ofList (name.toList.take (name.length - ending.length))
      else name
    say (name ++ "\n")
    return 0

/-- Writes a path without its last segment. -/
def dirname : Tool := fun i => do
  if i.arguments = [] then
    complain (i.name ++ ": missing operand\n" ++ seeHelp i.name)
    return 1
  for path in i.arguments do
    let short := Path.withoutEndSlashes path
    let above := String.ofList (short.toList.reverse.dropWhile (· ≠ '/')).reverse
    let trimmed := Path.withoutEndSlashes above
    say ((if short = "" then (if path = "" then "." else "/") else if above = "" then "."
      else if trimmed = "" then "/" else trimmed) ++ "\n")
  return 0

/-- Writes the value of an expression of one or three arguments. -/
def expr : Tool := fun i => do
  let answer (text : String) : Routine Nat := do
    say (text ++ "\n")
    return if text = "" ∨ text = "0" then 1 else 0
  let wrong (message : String) : Routine Nat := do
    complain (i.name ++ ": " ++ message)
    return 2
  match i.arguments with
  | [] => wrong ("missing operand\n" ++ seeHelp i.name)
  | [a] => answer a
  | [a, op, b] =>
    let truth (holds : Bool) : Routine Nat := answer (if holds then "1" else "0")
    match a.toInt?, b.toInt? with
    | some m, some n =>
      match op with
      | "+" => answer (toString (m + n))
      | "-" => answer (toString (m - n))
      | "*" => answer (toString (m * n))
      | "/" => if n = 0 then wrong "division by zero" else answer (toString (m.tdiv n))
      | "%" => if n = 0 then wrong "division by zero" else answer (toString (m.tmod n))
      | "=" => truth (m = n)
      | "!=" => truth (m ≠ n)
      | "<" => truth (m < n)
      | "<=" => truth (m ≤ n)
      | ">" => truth (n < m)
      | ">=" => truth (n ≤ m)
      | _ => wrong ("syntax error: unexpected argument " ++ shown op)
    | _, _ =>
      match op with
      | "=" => truth (a = b)
      | "!=" => truth (a ≠ b)
      | "<" => truth (a < b)
      | ">" => truth (b < a)
      | "<=" => truth (¬ b < a)
      | ">=" => truth (¬ a < b)
      | "+" | "-" | "*" | "/" | "%" => wrong "non-integer argument"
      | _ => wrong ("syntax error: unexpected argument " ++ shown op)
  | _ :: extra :: _ => wrong ("syntax error: unexpected argument " ++ shown extra)

end PlainTerminal.Tools
