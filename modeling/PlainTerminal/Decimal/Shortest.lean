/-!
# The shortest decimal form of a binary number

A floating-point number is `m · 2 ^ q` with a whole `m`. Every decimal number closer to it than half
a unit of its last place reads back as the same number, and so does one at exactly that distance
when `m` is even. `shortest` gives the decimal number with the fewest digits that reads back; of two
with equally many digits the nearer one.

For each number of digits the candidates are the value's two neighbours on the grid of decimal
numbers with that many digits. All comparisons are between whole numbers.
-/

namespace PlainTerminal.Decimal

/-- A decimal number `coefficient · 10 ^ exponent`. -/
structure Number where
  coefficient : Nat
  exponent : Int
deriving DecidableEq, Repr

/-- A binary number with the numbers next to it: `m · 2 ^ q`, and whether the number below it is
only half as far away as the one above, which happens at powers of two. -/
structure Binary where
  m : Nat
  q : Int
  closeBelow : Bool
deriving DecidableEq, Repr

/-- Four times the value, as a fraction. -/
def Binary.fraction (b : Binary) : Nat × Nat :=
  if 0 ≤ b.q then (4 * b.m * Nat.pow 2 b.q.toNat, 1) else (4 * b.m, Nat.pow 2 (-b.q).toNat)

/-- Four times the unit of the last place, over the same denominator. -/
def Binary.unit (b : Binary) : Nat := if 0 ≤ b.q then 4 * Nat.pow 2 b.q.toNat else 4

/-- Four times a decimal number reads back as the binary one: `c · 10 ^ e` lies in the interval
around it. -/
def Binary.readsBack (b : Binary) (c : Nat) (e : Int) : Bool :=
  let (num, den) := b.fraction
  let up := if 0 ≤ e then Nat.pow 10 e.toNat else 1
  let down := if 0 ≤ e then 1 else Nat.pow 10 (-e).toNat
  let point := 4 * c * up * den
  let lower := (num - b.unit / (if b.closeBelow then 4 else 2)) * down
  let upper := (num + b.unit / 2) * down
  if b.m % 2 = 0 then lower ≤ point && point ≤ upper else lower < point && point < upper

/-- The number of decimal digits of a positive whole number. -/
def digitCount (n : Nat) : Nat := (toString n).length

/-- The least `j ≤ bound` for which `num · 10 ^ j ≥ den`. -/
def leadingZeros (num den : Nat) : Nat → Nat
  | 0 => 0
  | bound + 1 => if den ≤ num then 0 else leadingZeros (num * 10) den bound + 1

/-- The position of the first digit: the value lies between `10 ^ (k - 1)` and `10 ^ k`. -/
def Binary.magnitude (b : Binary) : Int :=
  let (num, den) := b.fraction
  if 4 * den ≤ num then digitCount (num / (4 * den))
  else 1 - (leadingZeros num (4 * den) 400 : Int)

/-- The best decimal number on the grid of multiples of `10 ^ e`, if one reads back. -/
def Binary.onGrid (b : Binary) (e : Int) : Option Number :=
  let (num, den) := b.fraction
  let up := if 0 ≤ e then Nat.pow 10 e.toNat else 1
  let down := if 0 ≤ e then 1 else Nat.pow 10 (-e).toNat
  let below := num * down / (4 * den * up)
  let rest := num * down % (4 * den * up)
  match b.readsBack below e, b.readsBack (below + 1) e with
  | true, true =>
    if 2 * rest < 4 * den * up ∨ (2 * rest = 4 * den * up ∧ below % 2 = 0) then some ⟨below, e⟩
    else some ⟨below + 1, e⟩
  | true, false => some ⟨below, e⟩
  | false, true => some ⟨below + 1, e⟩
  | false, false => none

/-- The shortest decimal number that reads back. Seventeen digits always do. -/
def Binary.shortest (b : Binary) : Number :=
  ((List.range 17).findSome? fun n => b.onGrid (b.magnitude - ((n + 1 : Nat) : Int))).getD ⟨0, 0⟩

/-- Moves the zeros at the end of the coefficient into the exponent. -/
def Number.normalized (d : Number) : Number :=
  let zeros := ((toString d.coefficient).toList.reverse.takeWhile (· == '0')).length
  if d.coefficient = 0 then ⟨0, 0⟩ else ⟨d.coefficient / Nat.pow 10 zeros, d.exponent + zeros⟩

/-- A finite number with 52 bits after its first one. -/
def ofFloat (x : Float) : Binary :=
  let bits := x.toBits.toNat
  let fraction : Nat := bits % Nat.pow 2 52
  let exponent : Nat := bits / Nat.pow 2 52 % Nat.pow 2 11
  if exponent = 0 then ⟨fraction, -1074, false⟩
  else ⟨Nat.pow 2 52 + fraction, (exponent : Int) - 1075, fraction == 0 && exponent != 1⟩

/-- A finite number with 23 bits after its first one. -/
def ofFloat32 (x : Float32) : Binary :=
  let bits := x.toBits.toNat
  let fraction : Nat := bits % Nat.pow 2 23
  let exponent : Nat := bits / Nat.pow 2 23 % Nat.pow 2 8
  if exponent = 0 then ⟨fraction, -149, false⟩
  else ⟨Nat.pow 2 23 + fraction, (exponent : Int) - 150, fraction == 0 && exponent != 1⟩

end PlainTerminal.Decimal
