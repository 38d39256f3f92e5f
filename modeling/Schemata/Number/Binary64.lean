/-!
# Finite binary64 numbers

A finite double-precision number is a sign and a magnitude counted in units of 2^-1074, the
smallest positive magnitude. Order is then order of integers, and every operation is one exact
rational followed by one rounding: to nearest, a tie to the even significand, no result where the
magnitude would reach 2^1024.
-/

namespace Schemata

/-- How many units of 2^-1074 make one. -/
def unitsPerOne : Nat := 1 <<< 1074

/-- The least count of units that overflows: 2^1024. -/
def overflowUnits : Nat := unitsPerOne <<< 1024

theorem overflowUnits_pos : 0 < overflowUnits := by decide +kernel

/-- The greatest significand of a rounded magnitude: 2^53. -/
def significandLimit : Nat := 1 <<< 53

/-- A magnitude in units of 2^-1074 that binary64 holds: at most 53 significant bits, below the
overflow limit. The significand 2^53 is 2^52 with the next exponent. -/
def RepresentableUnits (units : Nat) : Prop :=
  units < overflowUnits
    ∧ ∃ significand shift, significand ≤ significandLimit ∧ units = significand <<< shift

/-- A finite binary64 number; zero has two signs. -/
structure Binary64 where
  /-- The sign bit. -/
  negative : Bool
  /-- The magnitude in units of 2^-1074. -/
  units : Nat
  /-- The magnitude is one that binary64 holds. -/
  representable : RepresentableUnits units
  deriving DecidableEq

namespace Binary64

/-- Positive or negative zero. -/
def zero (negative : Bool) : Binary64 :=
  ⟨negative, 0, overflowUnits_pos, 0, 0, Nat.zero_le _, rfl⟩

/-- The signed count of units; both zeros have the count 0. -/
def toUnits (x : Binary64) : Int := if x.negative then -(x.units : Int) else x.units

/-- Numeric equality; both zeros are equal. -/
def eq (x y : Binary64) : Bool := x.toUnits == y.toUnits

/-- Numeric order. -/
def lt (x y : Binary64) : Bool := decide (x.toUnits < y.toUnits)

/-- Numeric order, not strict. -/
def le (x y : Binary64) : Bool := decide (x.toUnits ≤ y.toUnits)

/-- The magnitude with a positive sign. -/
def abs (x : Binary64) : Binary64 := { x with negative := false }

/-- The number of low bits that a magnitude of `num / den` units loses. -/
def lostBits (num den : Nat) : Nat := (num / den).log2 - 52

/-- The significand nearest to the quotient without its lost bits, ties to even. -/
def roundedSignificand (num den : Nat) : Nat :=
  let step := den <<< lostBits num den
  let floor := num / step
  let rest := num % step
  if 2 * rest < step then floor
  else if step < 2 * rest then floor + 1
  else floor + floor % 2

/-- The representable magnitude nearest to `num / den` units, overflow aside. -/
def roundUnits (num den : Nat) : Nat := roundedSignificand num den <<< lostBits num den

-- The quotient left after dropping the lost bits has at most 53 bits.
private theorem quotient_lt (num den : Nat) :
    num / (den <<< lostBits num den) < significandLimit := by
  rw [Nat.shiftLeft_eq, ← Nat.div_div_eq_div_mul]
  apply Nat.div_lt_of_lt_mul
  rw [significandLimit, Nat.shiftLeft_eq, Nat.one_mul, ← Nat.pow_add]
  refine Nat.lt_of_lt_of_le (Nat.lt_log2_self (n := num / den)) ?_
  exact Nat.pow_le_pow_right (by decide) (by unfold lostBits; omega)

/-- Rounding up may carry to 2^53 and no further. -/
theorem roundedSignificand_le (num den : Nat) : roundedSignificand num den ≤ significandLimit := by
  have bound := quotient_lt num den
  unfold roundedSignificand
  dsimp only
  split
  · omega
  split
  · omega
  · have := Nat.mod_lt (num / (den <<< lostBits num den)) (y := 2) (by decide)
    omega

/-- The number nearest to `num / den` in magnitude, none on overflow. -/
def ofRatio? (negative : Bool) (num den : Nat) : Option Binary64 :=
  let units := roundUnits (num * unitsPerOne) den
  if h : units < overflowUnits then
    some ⟨negative, units, h, _, _, roundedSignificand_le _ _, rfl⟩
  else none

/-- The number nearest to an integer of fewer than 1024 bits. -/
def ofInt (n : Int) : Binary64 := (ofRatio? (n < 0) n.natAbs 1).getD (zero false)

/-- The number nearest to `digits * 10 ^ exponent` in magnitude, none on overflow. Exponents so
far out that the result is zero or an overflow are settled by the count of bits alone. -/
def ofDecimal? (negative : Bool) (digits : Nat) (exponent : Int) : Option Binary64 :=
  if digits = 0 then some (zero negative)
  else if 0 ≤ exponent then
    if 1024 < exponent then none
    else ofRatio? negative (digits * Nat.pow 10 exponent.toNat) 1
  else
    let places := (-exponent).toNat
    if 2200 + digits.log2 < places then some (zero negative)
    else ofRatio? negative digits (Nat.pow 10 places)

/-- The rounded product, none on overflow. -/
def mul? (x y : Binary64) : Option Binary64 :=
  ofRatio? (x.negative != y.negative) (x.units * y.units) (unitsPerOne * unitsPerOne)

/-- The rounded quotient by a number other than zero, none on overflow. -/
def div? (x y : Binary64) : Option Binary64 :=
  ofRatio? (x.negative != y.negative) x.units y.units

/-- Whether there is no fractional part. -/
def isIntegral (x : Binary64) : Bool := x.units % unitsPerOne == 0

/-- The integer part, towards zero. -/
def truncate (x : Binary64) : Int :=
  let whole : Int := x.units / unitsPerOne
  if x.negative then -whole else whole

/-- The nearest integer, halves away from zero. -/
def nearestInt (x : Binary64) : Int :=
  let whole : Int := (2 * x.units + unitsPerOne) / (2 * unitsPerOne)
  if x.negative then -whole else whole

@[simp] theorem toUnits_zero (negative : Bool) : (zero negative).toUnits = 0 := by
  cases negative <;> rfl

end Binary64

end Schemata
