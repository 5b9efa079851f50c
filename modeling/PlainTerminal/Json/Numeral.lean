import PlainTerminal.Json.Value

/-!
# Reading numbers

A written number is whole if it has neither a fraction nor an exponent and fits 64 bits; a minus
sign before zero makes it a double. Every other number is a double: its digits, as far as they fit
64 bits, are read as one whole number, which is then multiplied or divided by one power of ten, a
rounding each. A number too large for a double has no value.
-/

namespace PlainTerminal.Json

/-- A number as it is written: sign, digits before and after the point, sign and digits of the
exponent. -/
structure Numeral where
  negative : Bool
  whole : List Char
  fraction : Option (List Char)
  exponent : Option (Bool × List Char)

namespace Numeral

/-- The largest whole number of 64 bits. -/
def maxSignificand : Nat := UInt64.size - 1

/-- The value of a digit. -/
def digitValue (c : Char) : Nat := c.toNat - 48

/-- The value of a string of digits. -/
def digitsValue (digits : List Char) : Nat := digits.foldl (fun n c => n * 10 + digitValue c) 0

/-- Reads the digits before the point: what fits, and how many digits do not. -/
def readWhole (significand dropped : Nat) : List Char → Nat × Nat
  | [] => (significand, dropped)
  | c :: rest =>
    if dropped = 0 ∧ significand * 10 + digitValue c ≤ maxSignificand then
      readWhole (significand * 10 + digitValue c) 0 rest
    else (significand, dropped + rest.length + 1)

/-- Reads the digits after the point up to the first that does not fit: what is read, and how many
digits of it come from here. -/
def readFraction (significand taken : Nat) : List Char → Nat × Nat
  | [] => (significand, taken)
  | c :: rest =>
    if significand * 10 + digitValue c ≤ maxSignificand then
      readFraction (significand * 10 + digitValue c) (taken + 1) rest
    else (significand, taken)

/-- The powers of ten that a double can hold. -/
def maxPower : Int := 308

/-- Multiplies or divides by a power of ten. Very small numbers are divided in steps of the largest
power. -/
def scale (x : Float) (exponent : Int) : Nat → Option Float
  | 0 => some x
  | steps + 1 =>
    if exponent.natAbs ≤ maxPower.natAbs then
      let power := Float.ofScientific 1 false exponent.natAbs
      if 0 ≤ exponent then
        let product := x * power
        if product.isInf then none else some product
      else some (x / power)
    else if x == 0 then some x
    else if 0 ≤ exponent then none
    else scale (x / Float.ofScientific 1 false maxPower.natAbs) (exponent + maxPower) steps

/-- The exponent that is written. -/
def writtenExponent (n : Numeral) : Int :=
  match n.exponent with
  | none => 0
  | some (negative, digits) =>
    if negative then -(digitsValue digits : Int) else digitsValue digits

/-- The number as a double. -/
def floatValue (n : Numeral) : Option Float :=
  let (whole, dropped) := readWhole 0 0 n.whole
  let (significand, taken) := readFraction whole 0 (n.fraction.getD [])
  let exponent : Int := dropped - taken + n.writtenExponent
  (scale (Float.ofNat significand) exponent 5).map fun x => if n.negative then -x else x

/-- The number that is written, unless it is too large. -/
def value (n : Numeral) : Option Number :=
  let magnitude := digitsValue n.whole
  if n.fraction.isNone && n.exponent.isNone then
    if n.negative then
      if magnitude = 0 ∨ magnitude > UInt64.size / 2 then n.floatValue.map .float
      else some (.int (-(magnitude : Int)))
    else if magnitude ≤ maxSignificand then some (.int magnitude)
    else n.floatValue.map .float
  else n.floatValue.map .float

end Numeral

end PlainTerminal.Json
