import LiveBoard.Binary64.Basic

/-! The fewest decimal digits that read back as the same number, and how they are laid out. -/

namespace LiveBoard.Binary64

/-- A positive decimal number, read as `0.d₁d₂… * 10 ^ point`. -/
structure Digits where
  digits : Nat
  count : Nat
  point : Int
  deriving DecidableEq, Repr

/--
The reals that round to a positive number, as three numerators over one denominator.

The ends belong to the interval exactly when the significand is even.
-/
structure Interval where
  low : Nat
  middle : Nat
  high : Nat
  denominator : Nat
  closed : Bool

/-- The interval of a nonzero magnitude. -/
def interval (x : Binary64) : Interval :=
  let m := x.significand
  -- Just above a power of two the neighbour below is only half a step away.
  let lower := if m = hiddenBit ∧ -1074 < x.power then 4 * m - 1 else 4 * m - 2
  let scale := x.power - 2
  let up := Nat.pow 2 scale.toNat
  ⟨lower * up, 4 * m * up, (4 * m + 2) * up, Nat.pow 2 (-scale).toNat, m % 2 = 0⟩

namespace Interval

/-- Whether the decimal `digits * 10 ^ exponent` lies in the interval. -/
def contains (i : Interval) (digits : Nat) (exponent : Int) : Bool :=
  let value := digits * Nat.pow 10 exponent.toNat * i.denominator
  let scale := Nat.pow 10 (-exponent).toNat
  if i.closed then i.low * scale ≤ value && value ≤ i.high * scale
  else i.low * scale < value && value < i.high * scale

/-- The largest integer whose product with `10 ^ exponent` does not exceed the middle. -/
def floorAt (i : Interval) (exponent : Int) : Nat :=
  (i.middle * Nat.pow 10 (-exponent).toNat) / (i.denominator * Nat.pow 10 exponent.toNat)

/-- Whether the middle is nearer to `digits` than to its successor, ties to the even one. -/
def prefersFloor (i : Interval) (digits : Nat) (exponent : Int) : Bool :=
  let twice := 2 * i.middle * Nat.pow 10 (-exponent).toNat
  let half := (2 * digits + 1) * (i.denominator * Nat.pow 10 exponent.toNat)
  twice < half || (twice == half && digits % 2 == 0)

/-- The two neighbours of the middle on one decimal grid, if one of them lies in the interval. -/
def onGrid (i : Interval) (exponent : Int) : Option Nat :=
  let below := i.floorAt exponent
  let low := i.contains below exponent && below != 0
  let high := i.contains (below + 1) exponent
  match low, high with
  | true, true => some (if i.prefersFloor below exponent then below else below + 1)
  | true, false => some below
  | false, true => some (below + 1)
  | false, false => none

end Interval

/-- The number of decimal digits of a natural number, zero having none. -/
def digitCount (n : Nat) : Nat :=
  if n = 0 then 0 else (Nat.toDigits 10 n).length

/-- Try the decimal grids from coarse to fine and take the first with a hit. -/
def searchGrids (i : Interval) (exponent : Int) : Nat → Nat × Int
  | 0 => (i.floorAt exponent, exponent)
  | steps + 1 =>
    match i.onGrid exponent with
    | some digits => (digits, exponent)
    | none => searchGrids i (exponent - 1) steps

/-- The fewest digits that read back as the same nonzero magnitude. -/
def shortest (x : Binary64) : Digits :=
  let i := x.interval
  -- The decimal exponent of the leading digit, found from the size of both sides of the ratio.
  let whole := digitCount (i.middle / i.denominator)
  let leading : Int :=
    if whole ≠ 0 then whole
    else
      let inverse := i.denominator / i.middle
      1 - digitCount inverse
  let (digits, exponent) := searchGrids i leading 20
  -- A grid may be hit at a multiple of ten, whose trailing zeros are not digits.
  let rec strip (fuel digits : Nat) (exponent : Int) : Nat × Int :=
    match fuel with
    | 0 => (digits, exponent)
    | fuel + 1 =>
      if digits % 10 = 0 then strip fuel (digits / 10) (exponent + 1) else (digits, exponent)
  let (digits, exponent) := strip 20 digits exponent
  let count := digitCount digits
  ⟨digits, count, exponent + count⟩

/--
How a number is laid out in text.

Positional notation is kept while the exponent of the leading digit is at least `least` and below
`most`.
-/
structure Layout where
  least : Int
  most : Int

/-- Numbers in payloads are positional from `0.00001` up to, but not including, `10 ^ 16`. -/
def Layout.payload : Layout := ⟨-5, 16⟩

/-- The digits of a natural number as characters. -/
def digitChars (n : Nat) : List Char := Nat.toDigits 10 n

/-- A positive decimal with a point and at least one digit on each side of it. -/
def Digits.positional (d : Digits) : String :=
  let chars := digitChars d.digits
  if d.point ≤ 0 then
    "0." ++ String.ofList (List.replicate (-d.point).toNat '0' ++ chars)
  else if d.count ≤ d.point.toNat then
    String.ofList (chars ++ List.replicate (d.point.toNat - d.count) '0') ++ ".0"
  else
    String.ofList (chars.take d.point.toNat) ++ "." ++ String.ofList (chars.drop d.point.toNat)

/-- A positive decimal with one digit before the point and an explicitly signed exponent. -/
def Digits.scientific (d : Digits) : String :=
  let exponent := d.point - 1
  let mark := if exponent < 0 then "e-" else "e+"
  let mantissa :=
    match digitChars d.digits with
    | [] => ""
    | [lead] => String.ofList [lead]
    | lead :: rest => String.ofList (lead :: '.' :: rest)
  mantissa ++ mark ++ toString exponent.natAbs

/-- The text of a number under a layout. -/
def render (layout : Layout) (x : Binary64) : String :=
  let sign := if x.isNegative then "-" else ""
  if x.isZero then sign ++ "0.0"
  else
    let d := x.shortest
    let leading := d.point - 1
    sign ++ if layout.least ≤ leading && leading < layout.most then d.positional else d.scientific

/--
The text of a number rounded to an integer, without an exponent; zero keeps its sign.

From `2 ^ 53` on all numbers are integers, and their shortest digits are followed by zeros.
-/
def renderRounded (x : Binary64) : String :=
  let rounded := x.roundHalfAway
  let magnitude :=
    if rounded < Nat.pow 2 53 then toString rounded
    else
      let d := x.shortest
      String.ofList (digitChars d.digits ++ List.replicate (d.point.toNat - d.count) '0')
  (if x.isNegative then "-" else "") ++ magnitude

end LiveBoard.Binary64
