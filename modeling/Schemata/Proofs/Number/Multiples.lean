import Mathlib.Data.Rat.Floor
import Mathlib.Algebra.Order.Round
import Mathlib.Tactic.FieldSimp
import Mathlib.Tactic.Ring
import Schemata.Proofs.Number.Comparing

/-!
# Multiples

A number counts as a multiple of a factor if its rounded quotient lies within a rounded tolerance of
an integer: 10^-9, times the quotient where that exceeds one. The module bounds the errors of the
three roundings (the quotient, the float next to 10^-9 and their product, each 2^-53 of the result)
and says in exact integers what comes of it (`accepts_multipleOf`): every multiple is accepted, and
so are integers that are nearer to a multiple than about a part in 10^9 of the number itself.
-/

namespace Schemata

namespace Binary64

/-- The magnitude as a rational number. -/
def magnitude (x : Binary64) : ℚ := x.units / unitsPerOne

theorem cast_unitsPerOne_pos : (0 : ℚ) < unitsPerOne := by exact_mod_cast unitsPerOne_pos

theorem units_eq (x : Binary64) : (x.units : ℚ) = x.magnitude * unitsPerOne := by
  rw [magnitude, div_mul_cancel₀ _ (ne_of_gt cast_unitsPerOne_pos)]

theorem magnitude_nonneg (x : Binary64) : 0 ≤ x.magnitude :=
  div_nonneg (Nat.cast_nonneg _) (Nat.cast_nonneg _)

/-- How far a number lies from the nearest integer. -/
theorem distance_nearestInt (x : Binary64) :
    ((x.toUnits - x.nearestInt * unitsPerOne).natAbs : ℚ)
      = |x.magnitude - round x.magnitude| * unitsPerOne := by
  have whole : (2 * (x.units : Int) + unitsPerOne) / (2 * unitsPerOne) = round x.magnitude := by
    have half : x.magnitude + 1 / 2
        = ((2 * x.units + unitsPerOne : Nat) : ℚ) / ((2 * unitsPerOne : Nat) : ℚ) := by
      have nonzero := ne_of_gt cast_unitsPerOne_pos
      rw [magnitude]
      push_cast
      field_simp
    rw [round_eq, half, Rat.floor_natCast_div_natCast]
    push_cast
    rfl
  have unsigned : (x.toUnits - x.nearestInt * unitsPerOne).natAbs
      = ((x.units : Int) - round x.magnitude * unitsPerOne).natAbs := by
    rw [toUnits, nearestInt, ← whole]
    cases x.negative with
    | false => rfl
    | true =>
      rw [← Int.natAbs_neg]
      congr 1
      simp only [if_true]
      ring
  rw [unsigned, Nat.cast_natAbs]
  push_cast
  rw [units_eq, ← sub_mul, abs_mul, abs_of_pos cast_unitsPerOne_pos]

/-- The nearest number to a quotient is near it. -/
theorem exists_ofRatio?_near (negative : Bool) (num : Nat) {den : Nat} (pos : 0 < den)
    (normal : num = 0 ∨ den * 2 ^ 52 ≤ num * unitsPerOne) (le : num ≤ 2 ^ 53 * den) :
    ∃ x, ofRatio? negative num den = some x
      ∧ |x.magnitude - num / den| ≤ num / den / 2 ^ 53 := by
  obtain ⟨x, eq, -, units⟩ := exists_ofRatio? negative num (2 ^ 53) 1074 pos (Nat.le_refl _)
    (by
      rw [← mul_unitsPerOne, Nat.mul_right_comm]
      exact Nat.mul_le_mul_right _ le)
    (by decide +kernel)
  refine ⟨x, eq, ?_⟩
  have normal' : num * unitsPerOne = 0 ∨ den * 2 ^ 52 ≤ num * unitsPerOne :=
    normal.imp_left fun zero ↦ by rw [zero, Nat.zero_mul]
  have error := roundUnits_error pos normal'
  have one := cast_unitsPerOne_pos
  rw [← units, units_eq, Nat.cast_mul, mul_div_right_comm, ← sub_mul, abs_mul, abs_of_pos one,
    mul_div_right_comm] at error
  exact le_of_mul_le_mul_right error one

theorem units_ofInt {n : Int} (small : n.natAbs ≤ 2 ^ 53) :
    (ofInt n).units = n.natAbs * unitsPerOne := by
  have magnitude (x : Binary64) : x.units = x.toUnits.natAbs := by
    rw [toUnits]
    split <;> omega
  rw [magnitude, toUnits_ofInt small, Int.natAbs_mul, Int.natAbs_natCast]

theorem unitsPerOne_large : 2 ^ 105 ≤ unitsPerOne := by decide +kernel

/-- The quotient of two integers. -/
theorem exists_div?_ofInt {n k : Int} (smallN : n.natAbs < 2 ^ 53) (smallK : k.natAbs < 2 ^ 53)
    (nonzero : k ≠ 0) : ∃ q, (ofInt n).div? (ofInt k) = some q
      ∧ |q.magnitude - n.natAbs / k.natAbs| ≤ n.natAbs / k.natAbs / 2 ^ 53 := by
  have one := unitsPerOne_pos
  have large := unitsPerOne_large
  have factor : 0 < k.natAbs := Int.natAbs_pos.2 nonzero
  obtain ⟨q, eq, near⟩ := exists_ofRatio?_near ((ofInt n).negative != (ofInt k).negative)
    (n.natAbs * unitsPerOne) (Nat.mul_pos factor one)
    (by
      rcases Nat.eq_zero_or_pos n.natAbs with zero | positive
      · left
        rw [zero, Nat.zero_mul]
      · right
        rw [Nat.mul_right_comm]
        refine Nat.mul_le_mul_right _ ?_
        calc k.natAbs * 2 ^ 52 ≤ 2 ^ 53 * 2 ^ 52 := Nat.mul_le_mul_right _ (Nat.le_of_lt smallK)
          _ ≤ unitsPerOne := large
          _ ≤ n.natAbs * unitsPerOne := Nat.le_mul_of_pos_left _ positive)
    (by
      rw [← Nat.mul_assoc]
      refine Nat.mul_le_mul_right _ ?_
      calc n.natAbs ≤ 2 ^ 53 := Nat.le_of_lt smallN
        _ ≤ 2 ^ 53 * k.natAbs := Nat.le_mul_of_pos_right _ factor)
  refine ⟨q, ?_, ?_⟩
  · rw [div?, units_ofInt (Nat.le_of_lt smallN), units_ofInt (Nat.le_of_lt smallK), eq]
  · push_cast at near
    rwa [mul_div_mul_right _ _ (ne_of_gt cast_unitsPerOne_pos)] at near

/-- The product of two numbers that is neither tiny nor large. -/
theorem exists_mul? {x y : Binary64} (normal : unitsPerOne * 2 ^ 52 ≤ x.units * y.units)
    (le : x.units * y.units ≤ 2 ^ 53 * (unitsPerOne * unitsPerOne)) :
    ∃ t, x.mul? y = some t
      ∧ |t.magnitude - x.magnitude * y.magnitude| ≤ x.magnitude * y.magnitude / 2 ^ 53 := by
  have one := unitsPerOne_pos
  obtain ⟨t, eq, near⟩ := exists_ofRatio?_near (x.negative != y.negative) (x.units * y.units)
    (Nat.mul_pos one one)
    (.inr (by
      rw [Nat.mul_right_comm]
      exact Nat.mul_le_mul_right _ normal))
    le
  refine ⟨t, eq, ?_⟩
  push_cast at near
  rwa [mul_div_mul_comm] at near

theorem multipleTolerance_near :
    |multipleTolerance.magnitude - 1 / 10 ^ 9| ≤ 1 / 10 ^ 9 / 2 ^ 53 := by
  have large := unitsPerOne_large
  obtain ⟨t, eq, near⟩ := exists_ofRatio?_near false 1 (by decide : 0 < Nat.pow 10 9)
    (.inr (by
      have size : Nat.pow 10 9 * 2 ^ 52 ≤ 2 ^ 105 := by decide
      omega))
    (by decide)
  have settled : ofDecimal? false 1 (-9) = ofRatio? false 1 (Nat.pow 10 9) := by
    rw [ofDecimal?, if_neg (by decide), if_neg (by decide)]
    exact if_neg (by decide)
  rw [multipleTolerance, settled, eq, Option.getD_some]
  exact_mod_cast near

theorem units_multipleTolerance :
    2 ^ 52 ≤ multipleTolerance.units ∧ multipleTolerance.units * 2 ≤ unitsPerOne := by
  decide +kernel

/-- The factor of the tolerance: the quotient, but no less than one. -/
theorem magnitude_scale (q : Binary64) :
    (if q.abs.lt .one then Binary64.one else q.abs).magnitude = max q.magnitude 1 := by
  have one := cast_unitsPerOne_pos
  have units : Binary64.one.units = unitsPerOne := by
    rw [Binary64.one, units_ofInt (by decide), Int.natAbs_one, Nat.one_mul]
  have less : q.abs.lt .one = true ↔ q.units < unitsPerOne := by
    have positive : Binary64.one.toUnits = unitsPerOne := by
      rw [Binary64.one, toUnits_ofInt (by decide), one_mul]
    rw [lt, decide_eq_true_iff, positive]
    exact Int.ofNat_lt
  split
  · next below =>
    rw [magnitude, units, div_self (ne_of_gt one), max_eq_right]
    rw [magnitude, div_le_one one]
    exact_mod_cast Nat.le_of_lt (less.1 below)
  · next above =>
    rw [max_eq_left]
    · rfl
    · rw [magnitude, one_le_div one]
      exact_mod_cast Nat.le_of_not_lt (mt less.2 above)

/-- The tolerance of a quotient that is not too large. -/
theorem exists_tolerance {q : Binary64} (small : q.magnitude ≤ 2 ^ 54) :
    ∃ tolerance : Binary64,
      multipleTolerance.mul? (if q.abs.lt one then one else q.abs) = some tolerance
      ∧ |tolerance.magnitude - multipleTolerance.magnitude * max q.magnitude 1|
        ≤ multipleTolerance.magnitude * max q.magnitude 1 / 2 ^ 53 := by
  have unit := cast_unitsPerOne_pos
  obtain ⟨low, high⟩ := units_multipleTolerance
  have magnitudes := magnitude_scale q
  revert magnitudes
  generalize (if q.abs.lt one then one else q.abs) = scale
  intro magnitudes
  have scaleUnits : (scale.units : ℚ) = max q.magnitude 1 * unitsPerOne := by
    rw [units_eq, magnitudes]
  have atLeastOne : unitsPerOne ≤ scale.units := by
    have : (unitsPerOne : ℚ) ≤ scale.units := by
      rw [scaleUnits]
      exact le_mul_of_one_le_left (le_of_lt unit) (le_max_right _ _)
    exact_mod_cast this
  have atMost : scale.units ≤ 2 ^ 54 * unitsPerOne := by
    have : (scale.units : ℚ) ≤ 2 ^ 54 * unitsPerOne := by
      rw [scaleUnits]
      exact mul_le_mul_of_nonneg_right (max_le small (by norm_num)) (le_of_lt unit)
    exact_mod_cast this
  obtain ⟨tolerance, eq, near⟩ := exists_mul? (x := multipleTolerance) (y := scale)
    (by
      rw [Nat.mul_comm]
      exact Nat.mul_le_mul low atLeastOne)
    (by
      have product := Nat.mul_le_mul high atMost
      have doubled : multipleTolerance.units * 2 * scale.units
          = 2 * (multipleTolerance.units * scale.units) := by ring
      have limit : unitsPerOne * (2 ^ 54 * unitsPerOne)
          = 2 * (2 ^ 53 * (unitsPerOne * unitsPerOne)) := by ring
      omega)
  rw [magnitudes] at near
  exact ⟨tolerance, eq, near⟩

/-- A quotient counts as an integer if it is within the tolerance of one. -/
theorem countsAsInteger_iff {q tolerance : Binary64}
    (scaled : multipleTolerance.mul? (if q.abs.lt one then one else q.abs) = some tolerance) :
    q.countsAsInteger = true ↔ |q.magnitude - round q.magnitude| ≤ tolerance.magnitude := by
  unfold countsAsInteger
  dsimp only
  rw [scaled, Option.all_some, decide_eq_true_iff, ← Nat.cast_le (α := ℚ), distance_nearestInt,
    units_eq tolerance, mul_le_mul_iff_left₀ cast_unitsPerOne_pos]

/-- The tolerance and the error of the quotient together stay near 10^-9. -/
theorem tolerance_bounds {q tolerance : Binary64} {x : ℚ}
    (quotient : |q.magnitude - x| ≤ x / 2 ^ 53)
    (near : |tolerance.magnitude - multipleTolerance.magnitude * max q.magnitude 1|
      ≤ multipleTolerance.magnitude * max q.magnitude 1 / 2 ^ 53) :
    max x 1 / (10 ^ 9 + 112) + x / 2 ^ 53 ≤ tolerance.magnitude
      ∧ tolerance.magnitude + x / 2 ^ 53 ≤ max x 1 / (10 ^ 9 - 112) := by
  have allowed := abs_le.1 multipleTolerance_near
  rw [abs_le] at quotient near
  have atMost : x ≤ max x 1 := le_max_left x 1
  have atLeastOne : 1 ≤ max x 1 := le_max_right x 1
  have scaleAtMost : max q.magnitude 1 ≤ max x 1 * (1 + 1 / 2 ^ 53) :=
    max_le (by linarith) (by linarith)
  have scaleAtLeast : max x 1 * (1 - 1 / 2 ^ 53) ≤ max q.magnitude 1 := by
    rcases le_total x 1 with below | above
    · rw [max_eq_right below]
      exact le_trans (by norm_num) (le_max_right q.magnitude 1)
    · rw [max_eq_left above]
      exact le_trans (by linarith) (le_max_left q.magnitude 1)
  have productAtMost : multipleTolerance.magnitude * max q.magnitude 1
      ≤ 1 / 10 ^ 9 * (1 + 1 / 2 ^ 53) * (max x 1 * (1 + 1 / 2 ^ 53)) :=
    mul_le_mul (by linarith) scaleAtMost (le_trans zero_le_one (le_max_right _ _)) (by norm_num)
  have productAtLeast : 1 / 10 ^ 9 * (1 - 1 / 2 ^ 53) * (max x 1 * (1 - 1 / 2 ^ 53))
      ≤ multipleTolerance.magnitude * max q.magnitude 1 :=
    mul_le_mul (by linarith) scaleAtLeast (mul_nonneg (by linarith) (by norm_num))
      (magnitude_nonneg _)
  generalize max x 1 = y at *
  generalize multipleTolerance.magnitude * max q.magnitude 1 = product at *
  constructor <;> linarith

/-- A rounded quotient counts as an integer if the quotient is near one, and only then. -/
theorem countsAsInteger_bounds {q : Binary64} {x : ℚ} (small : x ≤ 2 ^ 53)
    (quotient : |q.magnitude - x| ≤ x / 2 ^ 53) :
    ((∃ m : Int, ((1000000112 : Nat) : ℚ) * |x - m| ≤ max x 1) → q.countsAsInteger = true)
      ∧ (q.countsAsInteger = true → ∃ m : Int, ((999999888 : Nat) : ℚ) * |x - m| ≤ max x 1) := by
  have smallQuotient : q.magnitude ≤ 2 ^ 54 := by
    have := abs_le.1 quotient
    linarith
  obtain ⟨tolerance, scaled, near⟩ := exists_tolerance smallQuotient
  obtain ⟨low, high⟩ := tolerance_bounds quotient near
  rw [countsAsInteger_iff scaled]
  constructor
  · rintro ⟨m, close⟩
    have step : |x - m| ≤ max x 1 / (10 ^ 9 + 112) := by
      rw [le_div_iff₀ (by norm_num), mul_comm]
      norm_num at close ⊢
      exact close
    calc |q.magnitude - round q.magnitude| ≤ |q.magnitude - m| := round_le _ _
      _ ≤ |q.magnitude - x| + |x - m| := abs_sub_le _ _ _
      _ ≤ tolerance.magnitude := by linarith
  · intro close
    refine ⟨round q.magnitude, ?_⟩
    have step : |x - round q.magnitude| ≤ max x 1 / (10 ^ 9 - 112) :=
      calc |x - round q.magnitude| ≤ |x - q.magnitude| + |q.magnitude - round q.magnitude| :=
            abs_sub_le _ _ _
        _ ≤ max x 1 / (10 ^ 9 - 112) := by
            rw [abs_sub_comm]
            linarith
    rw [le_div_iff₀ (by norm_num), mul_comm] at step
    norm_num at step ⊢
    exact step

end Binary64

/-! ### Integers -/

-- Both signs together turn the multiples of the one factor into those of the other.
private theorem exists_sign (n k : Int) : ∃ s : Int, s * s = 1
    ∧ ∀ m, (n - k * (s * m)).natAbs = ((n.natAbs : Int) - k.natAbs * m).natAbs := by
  obtain ⟨a, rfl | rfl⟩ := Int.eq_nat_or_neg n <;> obtain ⟨b, rfl | rfl⟩ := Int.eq_nat_or_neg k <;>
    simp only [Int.natAbs_neg, Int.natAbs_natCast]
  · exact ⟨1, rfl, fun m ↦ by rw [one_mul]⟩
  · exact ⟨-1, rfl, fun m ↦ by rw [neg_one_mul, neg_mul_neg]⟩
  · refine ⟨-1, rfl, fun m ↦ ?_⟩
    rw [← Int.natAbs_neg]
    congr 1
    ring
  · refine ⟨1, rfl, fun m ↦ ?_⟩
    rw [← Int.natAbs_neg]
    congr 1
    ring

/-- Signs do not count in the distances of an integer to the multiples of another. -/
theorem exists_multiple_iff {n k : Int} {p : Nat → Prop} :
    (∃ m : Int, p (n - k * m).natAbs) ↔ ∃ m : Int, p ((n.natAbs : Int) - k.natAbs * m).natAbs := by
  obtain ⟨s, square, sign⟩ := exists_sign n k
  constructor
  · rintro ⟨m, h⟩
    refine ⟨s * m, ?_⟩
    rwa [← sign, ← mul_assoc s s m, square, one_mul]
  · rintro ⟨m, h⟩
    exact ⟨s * m, by rwa [sign]⟩

/-- How far a multiple is from an integer, measured against the greater of integer and factor. -/
theorem mul_distance_le_iff {n k : Nat} (positive : 0 < k) (c : Nat) (m : Int) :
    c * ((n : Int) - k * m).natAbs ≤ max n k
      ↔ (c : ℚ) * |(n : ℚ) / k - m| ≤ max ((n : ℚ) / k) 1 := by
  have unit : (0 : ℚ) < k := by exact_mod_cast positive
  have distance : (((n : Int) - k * m).natAbs : ℚ) = |(n : ℚ) / k - m| * k := by
    rw [← abs_of_pos unit, ← abs_mul, abs_of_pos unit, sub_mul, div_mul_cancel₀ _ unit.ne',
      Nat.cast_natAbs]
    push_cast
    rw [mul_comm (m : ℚ)]
  have greater : ((max n k : Nat) : ℚ) = max ((n : ℚ) / k) 1 * k := by
    rw [max_mul_of_nonneg _ _ unit.le, div_mul_cancel₀ _ unit.ne', one_mul, Nat.cast_max]
  have exact : c * ((n : Int) - k * m).natAbs ≤ max n k
      ↔ ((c * ((n : Int) - k * m).natAbs : Nat) : ℚ) ≤ (max n k : Nat) := Nat.cast_le.symm
  rw [exact, Nat.cast_mul, distance, greater, ← mul_assoc, mul_le_mul_iff_left₀ unit]

/-- Nearness to a multiple is nearness of the quotient to an integer. -/
theorem exists_near_multiple_iff {n k : Int} (positive : 0 < k.natAbs) (c : Nat) :
    (∃ m : Int, c * (n - k * m).natAbs ≤ max n.natAbs k.natAbs)
      ↔ ∃ m : Int, (c : ℚ) * |(n.natAbs : ℚ) / k.natAbs - m|
        ≤ max ((n.natAbs : ℚ) / k.natAbs) 1 := by
  simp only [← mul_distance_le_iff positive]
  exact exists_multiple_iff (p := fun d ↦ c * d ≤ max n.natAbs k.natAbs)

variable {n k : Word}

/-- What counts as a multiple is near one, and what is near enough counts. -/
theorem Word.isMultipleOf_bounds (smallN : n.1.natAbs < 2 ^ 53) (smallK : k.1.natAbs < 2 ^ 53)
    (nonzero : k.1 ≠ 0) :
    ((∃ m : Int, 1000000112 * (n.1 - k.1 * m).natAbs ≤ max n.1.natAbs k.1.natAbs) →
        n.toNumber.toBinary64.isMultipleOf k.toNumber.toBinary64 = true)
      ∧ (n.toNumber.toBinary64.isMultipleOf k.toNumber.toBinary64 = true →
        ∃ m : Int, 999999888 * (n.1 - k.1 * m).natAbs ≤ max n.1.natAbs k.1.natAbs) := by
  have positive : 0 < k.1.natAbs := Int.natAbs_pos.2 nonzero
  obtain ⟨q, quotient, near⟩ := Binary64.exists_div?_ofInt smallN smallK nonzero
  have small : (n.1.natAbs : ℚ) / k.1.natAbs ≤ 2 ^ 53 := by
    have least : (1 : ℚ) ≤ k.1.natAbs := by exact_mod_cast positive
    have most : (n.1.natAbs : ℚ) ≤ 2 ^ 53 := by exact_mod_cast Nat.le_of_lt smallN
    exact (div_le_self (Nat.cast_nonneg _) least).trans most
  have counts : n.toNumber.toBinary64.isMultipleOf k.toNumber.toBinary64 = q.countsAsInteger := by
    rw [Binary64.isMultipleOf]
    show ((Binary64.ofInt n.1).div? (Binary64.ofInt k.1)).any _ = _
    rw [quotient, Option.any_some]
  rw [counts, exists_near_multiple_iff positive, exists_near_multiple_iff positive]
  exact Binary64.countsAsInteger_bounds small near

/-- A number whose only constraint is a factor is accepted if it counts as a multiple of it. -/
theorem Node.Accepts.multipleOf_iff {references : References} {limit levels : Nat}
    (smallK : k.1.natAbs < 2 ^ 53) (nonzero : k.1 ≠ 0) {node : Node}
    (numeric : node = .number { multipleOf := some k.toNumber }
      ∨ node = .integer { multipleOf := some k.toNumber }) :
    node.Accepts references limit levels n.toValue
      ↔ n.toNumber.toBinary64.isMultipleOf k.toNumber.toBinary64 = true := by
  have units : k.toNumber.toBinary64.units ≠ 0 := by
    have positive : 0 < k.1.natAbs := Int.natAbs_pos.2 nonzero
    show (Binary64.ofInt k.1).units ≠ 0
    rw [Binary64.units_ofInt (Nat.le_of_lt smallK)]
    exact (Nat.mul_pos positive Binary64.unitsPerOne_pos).ne'
  rw [numeric_iff numeric]
  simp [NumericConstraints.violation?_eq_none_iff, units]

/-- Multiples are accepted, and beside them only integers that lie nearer to a multiple than the
greater of integer and factor divided by 10^9, with a margin of 112 for rounding either way. Where
that leaves no room for another integer, the check is exact. -/
theorem accepts_multipleOf (references : References) (limit levels : Nat)
    (smallN : n.1.natAbs < 2 ^ 53) (smallK : k.1.natAbs < 2 ^ 53) (nonzero : k.1 ≠ 0) {node : Node}
    (numeric : node = .number { multipleOf := some k.toNumber }
      ∨ node = .integer { multipleOf := some k.toNumber }) :
    (k.1 ∣ n.1 → node.Accepts references limit levels n.toValue)
      ∧ ((∃ m : Int, 1000000112 * (n.1 - k.1 * m).natAbs ≤ max n.1.natAbs k.1.natAbs) →
        node.Accepts references limit levels n.toValue)
      ∧ (node.Accepts references limit levels n.toValue →
        ∃ m : Int, 999999888 * (n.1 - k.1 * m).natAbs ≤ max n.1.natAbs k.1.natAbs)
      ∧ (max n.1.natAbs k.1.natAbs < 999999888 →
        (node.Accepts references limit levels n.toValue ↔ k.1 ∣ n.1)) := by
  rw [Node.Accepts.multipleOf_iff smallK nonzero numeric]
  obtain ⟨near, counts⟩ := Word.isMultipleOf_bounds smallN smallK nonzero
  have multiple : k.1 ∣ n.1 → n.toNumber.toBinary64.isMultipleOf k.toNumber.toBinary64 = true := by
    rintro ⟨m, eq⟩
    exact near ⟨m, by simp [eq]⟩
  refine ⟨multiple, near, counts, fun narrow ↦ ⟨fun counted ↦ ?_, multiple⟩⟩
  obtain ⟨m, close⟩ := counts counted
  exact ⟨m, by omega⟩

/-- Neither 100 nor 99 is too large for the tolerance, and only the one is a multiple of 10. -/
theorem accepts_multipleOf_ten :
    (Node.integer { multipleOf := some (Word.toNumber ⟨-10, by decide⟩) }).Accepts [] 0 0
        (Word.toValue ⟨100, by decide⟩)
      ∧ ¬(Node.number { multipleOf := some (Word.toNumber ⟨-10, by decide⟩) }).Accepts [] 0 0
        (Word.toValue ⟨99, by decide⟩) := by
  constructor
  · exact (accepts_multipleOf [] 0 0 (by decide) (by decide) (by decide) (.inr rfl)).1 (by decide)
  · have exact := (accepts_multipleOf [] 0 0 (n := ⟨99, by decide⟩) (k := ⟨-10, by decide⟩)
      (by decide) (by decide) (by decide) (.inl rfl)).2.2.2 (by decide)
    rw [exact]
    decide

/-- One more than 10^9 is accepted as a multiple of two. -/
theorem odd_accepted :
    ¬((Node.integer { multipleOf := some (Word.toNumber ⟨2, by decide⟩) }).Accepts [] 0 0
      (Word.toValue ⟨1000000001, by decide⟩) ↔ (2 : Int) ∣ 1000000001) := by
  have counts : (Word.toNumber ⟨1000000001, by decide⟩).toBinary64.isMultipleOf
      (Word.toNumber ⟨2, by decide⟩).toBinary64 = true := by
    decide +kernel
  rw [Node.Accepts.multipleOf_iff (by decide) (by decide) (.inr rfl)]
  exact fun claimed ↦ absurd (claimed.1 counts) (by decide)

end Schemata
