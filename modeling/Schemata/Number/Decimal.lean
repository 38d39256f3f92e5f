import Schemata.Number.Binary64

/-!
# Shortest decimal digits

The decimal text of a binary64 number uses the fewest significant digits that read back as the same
number; among those, the decimal nearest to the exact value, and of two equally near ones the one
with the even last digit.
-/

namespace Schemata

/-- A positive decimal: the digits `d₁d₂…dₙ` read as `d₁.d₂…dₙ * 10 ^ exponent`. -/
structure Decimal where
  /-- The significant digits, as one natural number. -/
  digits : Nat
  /-- The power of ten of the leading digit. -/
  exponent : Int
  deriving DecidableEq

namespace Decimal

/-- The decimal digits of a natural number. -/
def digitText (n : Nat) : String := String.ofList (Nat.toDigits 10 n)

/-- How many decimal digits a natural number has. -/
def width (n : Nat) : Nat := (Nat.toDigits 10 n).length

/-- Drop trailing zeros, at most `fuel` of them. -/
def stripZeros : (fuel : Nat) → Nat → Nat
  | 0, n => n
  | fuel + 1, n => if n % 10 = 0 ∧ n ≠ 0 then stripZeros fuel (n / 10) else n

/-- The exponent of the first power of ten `10 ^ -j` with `num * 10 ^ j ≥ den`, from `j` on. -/
def leadingPlace : (fuel : Nat) → (num den j : Nat) → Nat
  | 0, _, _, j => j
  | fuel + 1, num, den, j =>
    if den ≤ num * 10 then j + 1 else leadingPlace fuel (num * 10) den (j + 1)

/-- The power of ten of the leading digit of `num / den`, for a positive quotient. -/
def leadingExponent (num den : Nat) : Int :=
  if den ≤ num then (width (num / den) : Int) - 1 else -(leadingPlace 400 num den 0 : Int)

/-- The exact value and the ends of the interval that rounds to it, over a common denominator. -/
structure Interval where
  /-- Numerator of the lower end. -/
  lower : Nat
  /-- Numerator of the exact value. -/
  value : Nat
  /-- Numerator of the upper end. -/
  upper : Nat
  /-- The common denominator. -/
  den : Nat
  /-- Whether the ends themselves round to the value. -/
  closed : Bool

/-- The interval of reals that round to a positive magnitude: half a step to either side, a quarter
step below a power of two, with the ends where the significand is even. -/
def Interval.of (x : Binary64) : Interval :=
  let shift := x.units.log2 - 52
  let step := 1 <<< shift
  let boundary := x.units == step <<< 52 && 0 < shift
  { lower := 4 * x.units - (if boundary then step else 2 * step)
    value := 4 * x.units
    upper := 4 * x.units + 2 * step
    den := 4 * unitsPerOne
    closed := x.units / step % 2 == 0 }

/-- Whether `num / den` lies in the interval. -/
def Interval.holds (i : Interval) (num den : Nat) : Bool :=
  let point := num * i.den
  if i.closed then decide (i.lower * den ≤ point) && decide (point ≤ i.upper * den)
  else decide (i.lower * den < point) && decide (point < i.upper * den)

/-- The decimal of `count` digits nearest to the value, if one lies in the interval. The grid step
is `10 ^ (exponent + 1 - count)`, and only the value's two neighbours on the grid are tried. -/
def Interval.nearest? (i : Interval) (exponent : Int) (count : Nat) : Option Nat :=
  let place := exponent + 1 - count
  let up := Nat.pow 10 place.toNat
  let down := Nat.pow 10 (-place).toNat
  let below := i.value * down / (i.den * up)
  let rest := i.value * down % (i.den * up)
  let belowHolds := i.holds (below * up) down
  let aboveHolds := i.holds ((below + 1) * up) down
  if belowHolds && aboveHolds then
    if 2 * rest < i.den * up then some below
    else if i.den * up < 2 * rest then some (below + 1)
    else some (below + below % 2)
  else if belowHolds then some below
  else if aboveHolds then some (below + 1)
  else none

/-- The first digit count from `count` on that has a decimal in the interval. -/
def Interval.search (i : Interval) (exponent : Int) : (fuel count : Nat) → Nat × Nat
  | 0, count => ((i.nearest? exponent count).getD 0, count)
  | fuel + 1, count =>
    match i.nearest? exponent count with
    | some digits => (digits, count)
    | none => i.search exponent fuel (count + 1)

/-- The shortest decimal of a magnitude other than zero; seventeen digits always suffice. -/
def shortest (x : Binary64) : Decimal :=
  let i := Interval.of x
  let exponent := leadingExponent i.value i.den
  let (digits, count) := i.search exponent 16 1
  { digits := stripZeros 20 digits
    exponent := exponent + (width digits - count : Nat) }

end Decimal

end Schemata
