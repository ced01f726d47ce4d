/-! Binary floating point of 64 bits, computed exactly on natural numbers. -/

namespace LiveBoard

/-- A floating point number of 64 bits, held as its interchange encoding. -/
structure Binary64 where
  bits : UInt64
  deriving DecidableEq, Inhabited, Hashable

namespace Binary64

/-- Positive zero. -/
def zero : Binary64 := ⟨0⟩

/-- The encoding of positive infinity, the least that is no finite number. -/
def infinityBits : Nat := 0x7FF0000000000000

/-- The largest natural number whose exponent step is one unit. -/
def hiddenBit : Nat := Nat.pow 2 52

/-- Whether the sign bit is set. -/
def isNegative (x : Binary64) : Bool := Nat.pow 2 63 ≤ x.bits.toNat

/-- The encoding without its sign bit. -/
def magnitudeBits (x : Binary64) : Nat := x.bits.toNat % Nat.pow 2 63

/-- Whether the number is neither infinite nor undefined. -/
def isFinite (x : Binary64) : Bool := x.magnitudeBits < infinityBits

/-- The number with the opposite sign. -/
def neg (x : Binary64) : Binary64 := ⟨x.bits ^^^ 0x8000000000000000⟩

/-- Whether the number is positive or negative zero. -/
def isZero (x : Binary64) : Bool := x.magnitudeBits == 0

/-- The integer `m` of the magnitude `m * 2 ^ q`. -/
def significand (x : Binary64) : Nat :=
  let field := x.magnitudeBits / hiddenBit
  let fraction := x.magnitudeBits % hiddenBit
  if field = 0 then fraction else hiddenBit + fraction

/-- The power `q` of the magnitude `m * 2 ^ q`. -/
def power (x : Binary64) : Int :=
  (max (x.magnitudeBits / hiddenBit) 1 : Nat) - 1075

/-- The magnitude as a ratio of two natural numbers. -/
def magnitude (x : Binary64) : Nat × Nat :=
  if 0 ≤ x.power then (x.significand * Nat.pow 2 x.power.toNat, 1)
  else (x.significand, Nat.pow 2 (-x.power).toNat)

/-- The quotient of two natural numbers rounded to the nearest integer, ties to the even one. -/
def divideToEven (num den : Nat) : Nat :=
  let quotient := num / den
  let rest := 2 * (num % den)
  if rest < den then quotient
  else if den < rest then quotient + 1
  else quotient + quotient % 2

/-- The encoding nearest to a positive ratio, ties to the even one; nothing beyond the largest. -/
def bitsOfRatio (num den : Nat) : Option Nat :=
  if num = 0 then some 0 else
  -- The quotient by this power of two has 52 or 53 bits before the point.
  let guess : Int := (num.log2 : Int) - den.log2 - 52
  let scaled (q : Int) : Nat × Nat :=
    if 0 ≤ q then (num, den * Nat.pow 2 q.toNat) else (num * Nat.pow 2 (-q).toNat, den)
  let (top, bottom) := scaled guess
  let exact := if top < hiddenBit * bottom then guess - 1 else guess
  -- Below the normal range the step stays that of the least normal number.
  let q := max exact (-1074)
  let (top, bottom) := scaled q
  -- A significand that rounds up to the next power of two carries into the exponent field.
  let bits := (q + 1074).toNat * hiddenBit + divideToEven top bottom
  if bits < infinityBits then some bits else none

/-- The number nearest to a ratio, ties to even; nothing when the ratio is beyond the largest. -/
def ofRatio? (num den : Nat) : Option Binary64 :=
  (bitsOfRatio num den).map fun bits => ⟨bits.toUInt64⟩

/-- The number nearest to an integer of at most 64 bits. -/
def ofInt (i : Int) : Binary64 :=
  let magnitude := (ofRatio? i.natAbs 1).getD zero
  if i < 0 then magnitude.neg else magnitude

/-- The product of two magnitudes, rounded to nearest. -/
def mul? (x y : Binary64) : Option Binary64 :=
  let (xNum, xDen) := x.magnitude
  let (yNum, yDen) := y.magnitude
  ofRatio? (xNum * yNum) (xDen * yDen)

/-- The quotient of two magnitudes, rounded to nearest. -/
def div? (x y : Binary64) : Option Binary64 :=
  let (xNum, xDen) := x.magnitude
  let (yNum, yDen) := y.magnitude
  ofRatio? (xNum * yDen) (xDen * yNum)

/-- The number nearest to a power of ten. -/
def powerOfTen (exponent : Nat) : Binary64 :=
  (ofRatio? (Nat.pow 10 exponent) 1).getD zero

/--
Scale a significand of 64 bits by a power of ten, rounding after each step.

A power up to 308 is one multiplication or division by the nearest representable power of ten.
A smaller scale divides by the largest such power first.
-/
def scaleByTen? (start : Binary64) (exponent : Int) : Option Binary64 :=
  if start.isZero then some start
  else if 308 < exponent then none
  else if 0 ≤ exponent then start.mul? (powerOfTen exponent.toNat)
  else if -308 ≤ exponent then start.div? (powerOfTen (-exponent).toNat)
  else do
    let reduced ← start.div? (powerOfTen 308)
    if reduced.isZero then return reduced
    else if -616 ≤ exponent then reduced.div? (powerOfTen (-exponent - 308).toNat)
    -- Two such divisions already take every 64-bit significand below the least number.
    else return zero

/-- The magnitude rounded to an integer, a half away from zero. -/
def roundHalfAway (x : Binary64) : Nat :=
  let (num, den) := x.magnitude
  (2 * num + den) / (2 * den)

end Binary64

end LiveBoard
