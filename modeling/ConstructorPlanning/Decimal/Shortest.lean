import ConstructorPlanning.Decimal.Binary64
/-!
The shortest decimal text that reads back as a given binary64 number, nearest to it among those of
its length.
-/
namespace ConstructorPlanning.Decimal

/-- A positive decimal number: its digits, and the power of ten of the first one. -/
structure Digits where
  digits : List Char
  magnitude : Int
  deriving DecidableEq, Repr

/-- The power of ten of the first digit of a positive ratio. -/
def magnitude (numerator denominator : Nat) : Int :=
  let whole := numerator / denominator
  if 0 < whole then
    ((Nat.toDigits 10 whole).length : Int) - 1
  else
    -((Nat.toDigits 10 (roundedUpInverse numerator denominator)).length : Int)
where
  /-- The number whose digit count gives the place of the first digit of a ratio below one. -/
  roundedUpInverse (numerator denominator : Nat) : Nat :=
    (denominator - 1) / numerator

/-- A ratio divided by a power of ten. -/
def scaledByTen (numerator denominator : Nat) (power : Int) : Nat × Nat :=
  if 0 ≤ power then
    (numerator, denominator * Nat.pow 10 power.toNat)
  else
    (numerator * Nat.pow 10 (-power).toNat, denominator)

/-- Whether a multiple of a power of ten reads back as the number: it lies between the midpoints to
the two neighbours, which belong to the interval where the significand is even. -/
def readsBack (x : Binary64) (multiple : Nat) (power : Int) : Bool :=
  let (a, b) := scaledByTen multiple 1 (-power)
  -- a quarter of the last place is the unit in which both midpoints are whole
  let (c, d) := Binary64.ratio ⟨1, x.exponent - 2⟩
  let value := a * d
  let unit := b * c
  let below := if x.significand = Binary64.minNormal ∧ -1074 < x.exponent then 1 else 2
  let low := (4 * x.significand - below) * unit
  let high := (4 * x.significand + 2) * unit
  if x.significand % 2 = 0 then low ≤ value && value ≤ high else low < value && value < high

/-- The multiple of a power of ten nearest to the number, of those that read back as it. -/
def nearest? (x : Binary64) (power : Int) : Option Nat :=
  let (a, b) := x.ratio
  let (n, d) := scaledByTen a b power
  let lower := n / d
  let order := if roundedQuotient n d = lower then [lower, lower + 1] else [lower + 1, lower]
  order.find? fun m => 0 < m && readsBack x m power

/-- The digits with the fewest places, tried from the largest power of ten on. -/
def shortestFrom (x : Binary64) : (tries : Nat) → (power : Int) → Nat × Int
  | 0, power => (0, power)
  | tries + 1, power =>
    match nearest? x power with
    | some m => (m, power)
    | none => shortestFrom x tries (power - 1)

def shortest (x : Binary64) : Digits :=
  let (a, b) := x.ratio
  let (m, power) := shortestFrom x 18 (magnitude a b)
  let digits := Nat.toDigits 10 m
  ⟨digits, power + digits.length - 1⟩

structure Layout where
  /-- The least and the greatest power of ten of the first digit that is written without an
  exponent. -/
  positionalFrom : Int
  positionalTo : Int

/-- The layout of numbers in messages: `100.0`, `0.00001`, `1.5e+19`, `1e-7`. -/
def Layout.message : Layout where
  positionalFrom := -5
  positionalTo := 15

def trimZeros (digits : List Char) : List Char :=
  (digits.reverse.dropWhile (· = '0')).reverse

/-- The digits with a decimal point and at least one digit on both sides of it. -/
def positional (digits : List Char) (magnitude : Int) : List Char :=
  if magnitude < 0 then
    '0' :: '.' :: List.replicate ((-magnitude).toNat - 1) '0' ++ digits
  else
    let places := magnitude.toNat + 1
    let whole := digits.take places ++ List.replicate (places - digits.length) '0'
    let fraction := digits.drop places
    whole ++ '.' :: (if fraction.isEmpty then ['0'] else fraction)

/-- The digits with an exponent, which has a sign always and no zeros in front. -/
def exponential (digits : List Char) (magnitude : Int) : List Char :=
  let mantissa := match digits with
    | first :: second :: rest => first :: '.' :: second :: rest
    | short => short
  let sign := if magnitude < 0 then '-' else '+'
  mantissa ++ 'e' :: sign :: Nat.toDigits 10 magnitude.natAbs

def written (layout : Layout) (negative : Bool) (x : Binary64) : String :=
  let sign := if negative then ['-'] else []
  let text :=
    if x.significand = 0 then
      ['0', '.', '0']
    else
      let shortest := shortest x
      let digits := trimZeros shortest.digits
      if layout.positionalFrom ≤ shortest.magnitude ∧ shortest.magnitude ≤ layout.positionalTo then
        positional digits shortest.magnitude
      else
        exponential digits shortest.magnitude
  String.ofList (sign ++ text)

end ConstructorPlanning.Decimal
