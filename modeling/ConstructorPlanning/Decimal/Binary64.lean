/-!
Finite non-negative numbers of the IEEE 754 format binary64, in exact arithmetic.
-/
namespace ConstructorPlanning.Decimal

/-- The number `significand` times two to the power `exponent`. A number made by `ofRatio` has a
significand below 2^53 and an exponent from -1074 to 971, and the smallest exponent that allows. -/
structure Binary64 where
  significand : Nat
  exponent : Int
  deriving DecidableEq, Repr

/-- The quotient rounded to the nearest natural number, a half to the even one. -/
def roundedQuotient (numerator denominator : Nat) : Nat :=
  let q := numerator / denominator
  let twice := 2 * (numerator % denominator)
  if twice < denominator then q
  else if denominator < twice then q + 1
  else if q % 2 = 0 then q
  else q + 1

namespace Binary64

def zero : Binary64 := ⟨0, -1074⟩

/-- The least significand of a number with all its 53 bits, 2^52. -/
def minNormal : Nat := Nat.pow 2 52

/-- The ratio `numerator / denominator` as a pair of naturals, after division by two to the power
`exponent`. -/
def scaled (numerator denominator : Nat) (exponent : Int) : Nat × Nat :=
  if 0 ≤ exponent then
    (numerator, denominator * Nat.pow 2 exponent.toNat)
  else
    (numerator * Nat.pow 2 (-exponent).toNat, denominator)

/-- The number nearest to a ratio, a tie going to the even significand; nothing if it is too large.
-/
def ofRatio (numerator denominator : Nat) : Option Binary64 :=
  if numerator = 0 then
    some zero
  else
    let guess : Int := (numerator.log2 : Int) - (denominator.log2 : Int) - 52
    let (n, d) := scaled numerator denominator guess
    let exact := if n < d * minNormal then guess - 1 else guess
    let exponent := max exact (-1074)
    let (n, d) := scaled numerator denominator exponent
    let rounded := roundedQuotient n d
    let (significand, exponent) :=
      if rounded = 2 * minNormal then (minNormal, exponent + 1) else (rounded, exponent)
    if 971 < exponent then none else some ⟨significand, exponent⟩

def ratio (x : Binary64) : Nat × Nat :=
  if 0 ≤ x.exponent then
    (x.significand * Nat.pow 2 x.exponent.toNat, 1)
  else
    (x.significand, Nat.pow 2 (-x.exponent).toNat)

/-- The rounded product; nothing if it is too large. -/
def mul (x y : Binary64) : Option Binary64 :=
  let (a, b) := x.ratio
  let (c, d) := y.ratio
  ofRatio (a * c) (b * d)

/-- The rounded quotient by a number other than zero; nothing if it is too large. -/
def div (x y : Binary64) : Option Binary64 :=
  let (a, b) := x.ratio
  let (c, d) := y.ratio
  ofRatio (a * d) (b * c)

def powerOfTen (n : Nat) : Option Binary64 :=
  ofRatio (Nat.pow 10 n) 1

end Binary64

end ConstructorPlanning.Decimal
