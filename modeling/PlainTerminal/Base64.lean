/-!
# Base64

Bytes written with 64 symbols, four symbols to three bytes. The last group is filled up with `=`,
no more and no less than needed, and bits of its last symbol that belong to no byte are zero; a text
that breaks one of these rules is refused with the place of the fault.
-/

namespace PlainTerminal.Base64

/-- What is wrong with a text. -/
inductive DecodeError where
  /-- A byte that is no symbol, or a filler where none may stand. -/
  | invalidSymbol (byte : UInt8) (offset : Nat)
  /-- A last symbol with bits that belong to no byte. -/
  | invalidLastSymbol (byte : UInt8) (offset : Nat)
  /-- A single symbol is left over. -/
  | invalidLength (length : Nat)
  /-- Fillers are missing. -/
  | invalidPadding
deriving DecidableEq

/-- The wording of an error. -/
def DecodeError.message : DecodeError → String
  | invalidSymbol byte offset =>
    "Invalid symbol " ++ toString byte.toNat ++ ", offset " ++ toString offset ++ "."
  | invalidLastSymbol byte offset =>
    "Invalid last symbol " ++ toString byte.toNat ++ ", offset " ++ toString offset ++ "."
  | invalidLength length => "Invalid input length: " ++ toString length
  | invalidPadding => "Invalid padding"

/-- The filler, `=`. -/
def filler : UInt8 := 61

/-- The six bits of a symbol. -/
def symbolValue? (byte : UInt8) : Option Nat :=
  let b := byte.toNat
  if 65 ≤ b ∧ b ≤ 90 then some (b - 65)
  else if 97 ≤ b ∧ b ≤ 122 then some (b - 71)
  else if 48 ≤ b ∧ b ≤ 57 then some (b + 4)
  else if b = 43 then some 62
  else if b = 47 then some 63
  else none

/-- The symbols of a text that has no fillers. -/
def symbols (offset : Nat) : List UInt8 → Except DecodeError (List Nat)
  | [] => .ok []
  | byte :: rest =>
    match symbolValue? byte with
    | none => .error (.invalidSymbol byte offset)
    | some v => do return v :: (← symbols (offset + 1) rest)

/-- The symbols of the last group and the number of fillers after them; `read` counts the bytes of
the group that have been passed, `firstFiller` is the place of the first filler among them. -/
def lastGroup (offset read : Nat) (firstFiller : Option Nat) :
    List UInt8 → Except DecodeError (List Nat × Nat)
  | [] => .ok ([], 0)
  | byte :: rest =>
    if byte = filler then
      if read < 2 then .error (.invalidSymbol byte (offset + read))
      else do
        let (values, fillers) ← lastGroup offset (read + 1) (firstFiller <|> some read) rest
        return (values, fillers + 1)
    else match firstFiller with
      | some place => .error (.invalidSymbol filler (offset + place))
      | none =>
        match symbolValue? byte with
        | none => .error (.invalidSymbol byte (offset + read))
        | some v => do
          let (values, fillers) ← lastGroup offset (read + 1) none rest
          return (v :: values, fillers)

/-- The bytes of whole groups of four symbols. -/
def bytesOf : List Nat → List UInt8
  | a :: b :: c :: d :: rest =>
    let n := ((a * 64 + b) * 64 + c) * 64 + d
    UInt8.ofNat (n / 65536) :: UInt8.ofNat (n / 256) :: UInt8.ofNat n :: bytesOf rest
  | _ => []

/-- The bytes of the last group; `last` is its last symbol as it is written. -/
def lastBytes (offset : Nat) (last : UInt8) : List Nat → Except DecodeError (List UInt8)
  | [a, b, c, d] => .ok (bytesOf [a, b, c, d])
  | [a, b, c] =>
    if c % 4 = 0 then .ok ((bytesOf [a, b, c, 0]).take 2)
    else .error (.invalidLastSymbol last (offset + 2))
  | [a, b] =>
    if b % 16 = 0 then .ok ((bytesOf [a, b, 0, 0]).take 1)
    else .error (.invalidLastSymbol last (offset + 1))
  | _ => .ok []

/-- The number of bytes before the last group. -/
def headLength (length : Nat) : Nat := if length % 4 = 0 then length - 4 else length - length % 4

/-- The bytes that a text stands for. A single byte after whole groups that is no symbol is reported
first, whatever stands before it. -/
def decode (text : List UInt8) : Except DecodeError (List UInt8) := do
  let length := text.length
  let stray := text.getLast?.filter fun b => length % 4 = 1 ∧ b ≠ filler ∧ symbolValue? b = none
  match stray with
  | some byte => .error (.invalidSymbol byte (length - 1))
  | none =>
    let offset := headLength length
    let head ← symbols 0 (text.take offset)
    let tail := text.drop offset
    let (values, fillers) ← lastGroup offset 0 none tail
    if text ≠ [] ∧ values.length < 2 then .error (.invalidLength (offset + values.length))
    else if (fillers + values.length) % 4 ≠ 0 then .error .invalidPadding
    else
      let last ← lastBytes offset (tail.getD (values.length - 1) 0) values
      return bytesOf head ++ last

end PlainTerminal.Base64
