import PlainTerminal.Decimal.Shortest

/-!
# Decimal places

A binary number has an exact value, and that value is rounded to a given number of decimal places:
to the nearest one, and from the middle to the even one. The places are counted from the point
(`Binary.fixed`) or from the first digit (`Binary.rounded`).
-/

namespace PlainTerminal.Decimal

/-- The whole number nearest to a fraction; in the middle the even one. -/
def roundDiv (num den : Nat) : Nat :=
  let below := num / den
  let rest := num % den
  if 2 * rest < den ∨ (2 * rest = den ∧ below % 2 = 0) then below else below + 1

/-- The value times a power of ten, as a fraction. -/
def Binary.scaled (b : Binary) (exponent : Int) : Nat × Nat :=
  let (num, den) := b.fraction
  if 0 ≤ exponent then (num * Nat.pow 10 exponent.toNat, 4 * den)
  else (num, 4 * den * Nat.pow 10 (-exponent).toNat)

/-- The digits of a number, at least so many of them. -/
def digits (size n : Nat) : List Char :=
  let ds := (toString n).toList
  List.replicate (size - ds.length) '0' ++ ds

/-- The digits before and after the point when so many are to come after it. -/
def Binary.fixed (b : Binary) (places : Nat) : List Char × List Char :=
  let (num, den) := b.scaled places
  let ds := digits (places + 1) (roundDiv num den)
  ds.splitAt (ds.length - places)

/-- One digit and so many after it, and the power of ten that the first one stands for. -/
def Binary.rounded (b : Binary) (places : Nat) : List Char × Int :=
  if b.m = 0 then (List.replicate (places + 1) '0', 0)
  else
    let place := b.magnitude - 1
    let (num, den) := b.scaled (places - place)
    let n := roundDiv num den
    if n < Nat.pow 10 (places + 1) then (digits (places + 1) n, place)
    else (digits (places + 1) (n / 10), place + 1)

end PlainTerminal.Decimal
