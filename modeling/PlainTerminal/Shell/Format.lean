import PlainTerminal.Decimal.Places
import PlainTerminal.Machine.Activity
import PlainTerminal.Shell.Arithmetic

/-!
# Formatted output

What `echo` and `printf` print. Backslashes begin escapes: letters for control characters, and up to
three octal digits for a byte. A format is used again as long as there are arguments left, and
missing arguments count as empty or zero.
-/

namespace PlainTerminal.Shell

open Routine (bytesOf)

namespace Format

/-- The bytes of a character. -/
def bytesOfChar (c : Char) : List UInt8 := bytesOf (String.singleton c)

/-- An octal digit. -/
def isOctal (c : Char) : Bool := '0' ≤ c && c ≤ '7'

/-- The byte that some octal digits at the front spell, at most three of them, and what follows. -/
def octalByte (chars : List Char) : UInt8 × List Char :=
  let digits := (chars.take 3).takeWhile isOctal
  (UInt8.ofNat (digits.foldl (fun n c => n * 8 + (c.toNat - 48)) 0), chars.drop digits.length)

/-- The byte of an escape that is a letter or a backslash. -/
def letterByte? (c : Char) : Option UInt8 :=
  match c with
  | '\x5c' => some 92
  | 'a' => some 7
  | 'b' => some 8
  | 'e' => some 27
  | 'f' => some 12
  | 'n' => some 10
  | 'r' => some 13
  | 't' => some 9
  | 'v' => some 11
  | _ => none

/-- The bytes of an escape, of which the backslash has been read, and what follows. -/
def escape (chars : List Char) : List UInt8 × List Char :=
  match chars with
  | [] => ([92], [])
  | c :: rest =>
    match letterByte? c with
    | some b => ([b], rest)
    | none =>
      if isOctal c then
        let (b, rest) := octalByte chars
        ([b], rest)
      else ([92], chars)

/-- A text with escapes, in which octal digits may follow a zero, and whether `\c` ended it. -/
def unescaped : Nat → List Char → List UInt8 × Bool
  | 0, _ => ([], false)
  | _, [] => ([], false)
  | n + 1, '\x5c' :: rest =>
    match rest with
    | 'c' :: _ => ([], true)
    | _ =>
      let rest := match rest with
        | '0' :: d :: more => if isOctal d then d :: more else rest
        | _ => rest
      let (bytes, left) := escape rest
      let (more, ended) := unescaped n left
      (bytes ++ more, ended)
  | n + 1, c :: rest =>
    let (more, ended) := unescaped n rest
    (bytesOfChar c ++ more, ended)

/-- A text with escapes. -/
def unescape (text : String) : List UInt8 × Bool := unescaped (text.length + 1) text.toList

/-- What `echo` prints. -/
def echo (arguments : List String) : List UInt8 :=
  let (noBreak, arguments) := match arguments with
    | "-n" :: rest => (true, rest)
    | _ => (false, arguments)
  let (bytes, ended) := unescape (" ".intercalate arguments)
  bytes ++ if noBreak || ended then [] else [10]

/-! ## Formats -/

/-- How a directive lays out its value. -/
structure Layout where
  left : Bool := false
  plus : Bool := false
  space : Bool := false
  zero : Bool := false
  alternate : Bool := false
  width : Nat := 0
  precision : Option Nat := none
deriving DecidableEq, Repr

/-- What is wrong with a format or its arguments. -/
structure Complaint where
  message : String
  /-- The format was carried out all the same. -/
  isHarmless : Bool
deriving DecidableEq, Repr

/-- An argument is no number. -/
def Complaint.notNumeric (text : String) : Complaint := ⟨text ++ ": expected numeric value", true⟩

/-- What a format has come to so far: the bytes, the arguments left, the complaints, and whether an
argument ended everything. -/
structure Progress where
  bytes : List (List UInt8) := []
  arguments : List String
  used : Bool := false
  complaints : List Complaint := []
  ended : Bool := false

/-- Takes the next argument; a missing one has no text. -/
def Progress.next (p : Progress) : Option String × Progress :=
  match p.arguments with
  | [] => (none, { p with used := true })
  | a :: rest => (some a, { p with arguments := rest, used := true })

/-- Adds bytes. -/
def Progress.add (p : Progress) (bytes : List UInt8) : Progress :=
  { p with bytes := bytes :: p.bytes }

/-- Fills a field up to its width. -/
def Layout.fill (l : Layout) (bytes : List UInt8) : List UInt8 :=
  let gap := l.width - bytes.length
  if l.left then bytes ++ List.replicate gap 32 else List.replicate gap 32 ++ bytes

/-- Lays out a number with a sign or mark before its digits. -/
def Layout.number (l : Layout) (mark digits : String) : List UInt8 :=
  let digits := match l.precision with
    | some p => String.ofList (List.replicate (p - digits.length) '0') ++ digits
    | none =>
      if l.zero && !l.left then
        String.ofList (List.replicate (l.width - mark.length - digits.length) '0') ++ digits
      else digits
  l.fill (bytesOf (mark ++ digits))

/-- The digits of a number in some base. -/
def digitsIn (base n : Nat) (capital : Bool) : String :=
  let s := String.ofList (Nat.toDigits base n)
  if capital then s.toUpper else s

/-- The code of the character after a quote, if an argument begins with one. -/
def quotedCode? (argument : List Char) : Option Nat :=
  match argument with
  | '\x27' :: rest | '\x22' :: rest =>
    some ((rest.head?.elim [] bytesOfChar).headD 0).toNat
  | _ => none

/-- What is wrong with an argument of which a number was to be made, when so much of it is left. -/
def conversionComplaints (text : String) (hasNumber : Bool) (left : List Char) (isInRange : Bool) :
    List Complaint :=
  if !hasNumber then if text = "" then [] else [.notNumeric text]
  else if left ≠ [] then [⟨text ++ ": not completely converted", true⟩]
  else if isInRange then [] else [⟨text ++ ": Numerical result out of range", true⟩]

/-- A sign at the front, and what follows. -/
def signed (chars : List Char) : Bool × List Char :=
  match chars with
  | '-' :: rest => (true, rest)
  | '+' :: rest => (false, rest)
  | _ => (false, chars)

/-- The whole number that an argument spells, and what is wrong with it. It is cut to the numbers of
64 bits, with a sign or without one. -/
def numberOf (hasSign : Bool) (argument : Option String) : Int × List Complaint :=
  let text := argument.getD ""
  match quotedCode? text.toList with
  | some code => (code, [])
  | none =>
    let (negative, chars) := signed (text.toList.dropWhile Char.isWhitespace)
    let (n, size) := Expression.numberAt chars
    let limit := if !hasSign then UInt64.size - 1
      else if negative then Expression.largest + 1 else Expression.largest
    let value : Int := if n ≤ limit then (if negative then -(n : Int) else n)
      else if hasSign && negative then -(limit : Int) else limit
    (value, conversionComplaints text (size ≠ 0) (chars.drop size) (n ≤ limit))

/-- A number that may have a fraction, as an argument spells it. -/
inductive Magnitude where
  | finite (b : Decimal.Binary)
  | named (name : String)

/-- The number at the front of a text, what is left of the text, and whether the number is in range;
nothing if there is no number. -/
def magnitudeAt? (chars : List Char) : Option (Magnitude × List Char × Bool) :=
  let lower := chars.map Char.toLower
  if "infinity".toList.isPrefixOf lower then some (.named "inf", chars.drop 8, true)
  else if "inf".toList.isPrefixOf lower then some (.named "inf", chars.drop 3, true)
  else if "nan".toList.isPrefixOf lower then some (.named "nan", chars.drop 3, true)
  else
    let whole := chars.takeWhile Char.isDigit
    let (fraction, rest) := match chars.drop whole.length with
      | '.' :: rest => (rest.takeWhile Char.isDigit, rest.dropWhile Char.isDigit)
      | rest => ([], rest)
    if whole = [] ∧ fraction = [] then none
    else
      let (power, rest) : Int × List Char := match rest with
        | e :: after =>
          let (negative, digits) := signed after
          let exponent := digits.takeWhile Char.isDigit
          if (e = 'e' ∨ e = 'E') ∧ exponent ≠ [] then
            let n : Nat := min ((String.ofList exponent).toNat?.getD 0) 100000
            (if negative then -(n : Int) else n, digits.drop exponent.length)
          else (0, rest)
        | [] => (0, rest)
      let n := ((whole ++ fraction).foldl (fun n c => n * 10 + (c.toNat - 48)) 0 : Nat)
      let exponent := power - fraction.length
      let x := if n = 0 then 0.0
        else if exponent + (whole ++ fraction).length < -400 then 0.0
        else if 400 < exponent then 1.0 / 0.0
        else Float.ofScientific n (decide (exponent < 0)) exponent.natAbs
      if x.isInf then some (.named "inf", rest, false)
      else some (.finite (Decimal.ofFloat x), rest, n = 0 || x != 0.0)

/-- The number with a fraction that an argument spells, whether it is negative, and what is wrong with
it. -/
def magnitudeOf (argument : Option String) : Bool × Magnitude × List Complaint :=
  let text := argument.getD ""
  match quotedCode? text.toList with
  | some code => (false, .finite (Decimal.ofFloat (Float.ofNat code)), [])
  | none =>
    let (negative, chars) := signed (text.toList.dropWhile Char.isWhitespace)
    match magnitudeAt? chars with
    | some (m, left, isInRange) =>
      (negative, m, conversionComplaints text true left isInRange)
    | none => (false, .finite (Decimal.ofFloat 0.0), conversionComplaints text false [] true)

/-- A number with a point in it. -/
def pointed (keepsPoint : Bool) (whole fraction : List Char) : String :=
  String.ofList (whole ++ if fraction = [] ∧ keepsPoint = false then [] else '.' :: fraction)

/-- An exponent with its sign and at least two digits. -/
def exponentText (place : Int) : String :=
  (if place < 0 then "e-" else "e+") ++ String.ofList (Decimal.digits 2 place.natAbs)

/-- A number with a fraction, as the letter of a directive wants it written. -/
def magnitudeText (l : Layout) (letter : Char) (b : Decimal.Binary) : String :=
  let places := l.precision.getD 6
  let scientific (ds : List Char) (place : Int) : String :=
    pointed l.alternate (ds.take 1) (ds.drop 1) ++ exponentText place
  match letter with
  | 'f' =>
    let (whole, fraction) := b.fixed places
    pointed l.alternate whole fraction
  | 'e' =>
    let (ds, place) := b.rounded places
    scientific ds place
  | _ =>
    let size := max places 1
    let (ds, place) := b.rounded (size - 1)
    let trim (ds : List Char) : List Char :=
      if l.alternate then ds else (ds.reverse.dropWhile (· == '0')).reverse
    if place < -4 ∨ (size : Int) ≤ place then
      let kept := ds.take 1 ++ trim (ds.drop 1)
      scientific kept place
    else
      let (whole, fraction) := b.fixed (size - 1 - place).toNat
      pointed l.alternate whole (trim fraction)

/-- Carries out a directive that ends in a letter. -/
def directive (l : Layout) (letter : Char) (p : Progress) : Progress :=
  let (argument, p) := p.next
  let text := argument.getD ""
  let mark (negative : Bool) : String :=
    if negative then "-" else if l.plus then "+" else if l.space then " " else ""
  let complaining (complaints : List Complaint) : Progress :=
    { p with complaints := p.complaints ++ complaints }
  let unsigned (base : Nat) (capital : Bool) (front : String) : Progress :=
    let (n, complaints) := numberOf false argument
    let m := Expression.bits n
    (complaining complaints).add
      (l.number (if l.alternate ∧ m ≠ 0 then front else "") (digitsIn base m capital))
  match letter with
  | 's' =>
    let bytes := bytesOf text
    p.add (l.fill (l.precision.elim bytes bytes.take))
  | 'c' => p.add (l.fill ((bytesOf text).take 1))
  | 'b' =>
    let (bytes, ended) := unescape text
    { p with ended }.add (l.fill (l.precision.elim bytes bytes.take))
  | 'd' | 'i' =>
    let (n, complaints) := numberOf true argument
    (complaining complaints).add (l.number (mark (n < 0)) (toString n.natAbs))
  | 'u' => unsigned 10 false ""
  | 'o' => unsigned 8 false "0"
  | 'x' => unsigned 16 false "0x"
  | 'X' => unsigned 16 true "0X"
  | _ =>
    let (negative, m, complaints) := magnitudeOf argument
    let cased (text : String) : String := if letter.isUpper then text.toUpper else text
    let (plain, text) : Layout × String := match m with
      | .finite b => ({ l with precision := none }, magnitudeText l letter.toLower b)
      | .named name => ({ l with precision := none, zero := false }, name)
    (complaining complaints).add (plain.number (mark negative) (cased text))

/-- Reads the flags of a directive. -/
def flags (l : Layout) : List Char → Layout × List Char
  | '-' :: rest => flags { l with left := true } rest
  | '+' :: rest => flags { l with plus := true } rest
  | ' ' :: rest => flags { l with space := true } rest
  | '0' :: rest => flags { l with zero := true } rest
  | '#' :: rest => flags { l with alternate := true } rest
  | rest => (l, rest)

/-- Reads a number that may be given by an argument, written `*`. -/
def size (chars : List Char) (p : Progress) : Option Int × List Char × Progress :=
  match chars with
  | '*' :: rest =>
    let (argument, p) := p.next
    (some (numberOf true argument).1, rest, p)
  | _ =>
    let digits := chars.takeWhile Char.isDigit
    ((String.ofList digits).toNat?.map Int.ofNat, chars.drop digits.length, p)

/-- The letters that a directive may end in. -/
def directiveLetters : List Char :=
  ['s', 'c', 'b', 'd', 'i', 'u', 'o', 'x', 'X', 'f', 'F', 'e', 'E', 'g', 'G']

/-- Goes through a format once. -/
def pass : Nat → List Char → Progress → Progress
  | 0, _, p => p
  | _, [], p => p
  | n + 1, c :: rest, p =>
    if p.ended then p
    else if c = '\x5c' then
      let (bytes, rest) := escape rest
      pass n rest (p.add bytes)
    else if c ≠ '%' then pass n rest (p.add (bytesOfChar c))
    else match rest with
      | '%' :: rest => pass n rest (p.add [37])
      | start =>
        let (l, rest) := flags {} start
        let (width, rest, p) := size rest p
        let l := match width with
          | some w => { l with left := l.left || w < 0, width := w.natAbs }
          | none => l
        let (l, rest, p) := match rest with
          | '.' :: rest =>
            let (precision, rest, p) := size rest p
            ({ l with precision := some (precision.getD 0).toNat }, rest, p)
          | _ => (l, rest, p)
        match rest with
        | letter :: rest =>
          if directiveLetters.contains letter then
            pass n rest (directive l letter p)
          else
            { p with
              ended := true
              complaints := p.complaints ++
                [⟨String.ofList ('%' :: start.take (start.length - rest.length)) ++
                  ": invalid directive", false⟩] }
        | [] =>
          { p with ended := true, complaints := p.complaints ++ [⟨"missing format character", false⟩] }

/-- Goes through a format until no argument is left. -/
def passes (format : List Char) : Nat → Progress → Progress
  | 0, p => p
  | n + 1, p =>
    let before := p.arguments.length
    let p := pass (format.length + 1) format p
    if p.ended ∨ p.arguments = [] ∨ p.arguments.length = before then p
    else passes format n p

/-- What `printf` prints, and its complaints. -/
def printf (format : String) (arguments : List String) : List UInt8 × List Complaint :=
  let p := passes format.toList (arguments.length + 1) { arguments }
  (p.bytes.reverse.flatten, p.complaints)

end Format

end PlainTerminal.Shell
