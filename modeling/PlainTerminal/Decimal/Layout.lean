import PlainTerminal.Decimal.Shortest

/-!
# Writing a decimal number down

The digits of a number are one thing, where the point goes another. A `Layout` says for which
numbers the point stands among the digits, whether a whole number keeps a fraction, and how an
exponent is written.
-/

namespace PlainTerminal.Decimal

/-- How a number is laid out. The *place* of a number is the power of ten of its first digit; a
number is written without an exponent when its place lies between `lowestPlace` and
`highestPlace`. -/
structure Layout where
  lowestPlace : Int
  highestPlace : Int
  wholeFraction : String
  positiveSign : String

/-- JSON numbers: plain from `0.00001` up to below `1e+16`, whole numbers keep `.0`, and an exponent
has its sign. -/
def jsonLayout : Layout := ⟨-5, 15, ".0", "+"⟩

/-- Settings: always plain, and whole numbers without a fraction. -/
def plainLayout : Layout := ⟨-400, 400, "", ""⟩

/-- Digits with the point after the first `place + 1` of them. -/
def placed (layout : Layout) (digits : List Char) (place : Int) : String :=
  if place < 0 then
    "0." ++ String.ofList (List.replicate (-place - 1).toNat '0' ++ digits)
  else
    let whole := place.toNat + 1
    if digits.length ≤ whole then
      String.ofList (digits ++ List.replicate (whole - digits.length) '0') ++ layout.wholeFraction
    else String.ofList (digits.take whole) ++ "." ++ String.ofList (digits.drop whole)

/-- Digits with the point after the first one, and an exponent. -/
def scientific (layout : Layout) (digits : List Char) (place : Int) : String :=
  String.ofList (digits.take 1) ++
    (if digits.length ≤ 1 then "" else "." ++ String.ofList (digits.drop 1)) ++
    "e" ++ (if place < 0 then "-" else layout.positiveSign) ++ toString place.natAbs

/-- A number written out. -/
def Number.text (layout : Layout) (d : Number) : String :=
  let n := d.normalized
  let digits := (toString n.coefficient).toList
  let place : Int := n.exponent + digits.length - 1
  if layout.lowestPlace ≤ place ∧ place ≤ layout.highestPlace then placed layout digits place
  else scientific layout digits place

/-- A signed number written out from its shortest decimal form. -/
def Binary.text (layout : Layout) (negative : Bool) (b : Binary) : String :=
  (if negative then "-" else "") ++
    (if b.m = 0 then Number.text layout ⟨0, 0⟩ else b.shortest.text layout)

/-- A finite double written out. -/
def floatText (layout : Layout) (x : Float) : String :=
  (ofFloat x).text layout (x.toBits.toNat ≥ UInt64.size / 2)

/-- A finite single written out. -/
def float32Text (layout : Layout) (x : Float32) : String :=
  (ofFloat32 x).text layout (x.toBits.toNat ≥ UInt32.size / 2)

end PlainTerminal.Decimal
