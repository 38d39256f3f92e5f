import Mathlib.Data.Nat.Log
import Mathlib.Tactic.Linarith
import Schemata.Number.Basic

/-!
# Rounding to binary64

What rounding to the nearest number does to a quotient of units: it is moved by half a step between
neighbouring significands at most (`roundUnits_near`), the order of quotients is kept
(`roundUnits_mono`), and what binary64 holds stays as it is (`roundUnits_of_representable`). Where
the quotient has all of its 53 bits the relative error is 2^-53 (`roundUnits_error`). Integers are
rounded in the same way, those up to 2^53 to themselves (`toUnits_ofInt`).
-/

namespace Schemata

/-- The integers that binary64 holds exactly have fewer than 64 bits. -/
theorem isWord_of_natAbs_le {n : Int} (small : n.natAbs ≤ 2 ^ 53) : IsWord n := by
  have limits : signedLimit = 2 ^ 63 ∧ UInt64.size = 2 ^ 64 := ⟨rfl, rfl⟩
  rw [isWord_iff]
  omega

namespace Binary64

variable {num num' den : Nat}

theorem unitsPerOne_pos : 0 < unitsPerOne := by decide +kernel

theorem mul_unitsPerOne (n : Nat) : n * unitsPerOne = n <<< 1074 := by
  have shifted (k : Nat) : n * (1 <<< k) = n <<< k := by
    rw [Nat.shiftLeft_eq 1, Nat.one_mul, Nat.shiftLeft_eq]
  exact shifted 1074

theorem lostBits_mono (den : Nat) (le : num ≤ num') : lostBits num den ≤ lostBits num' den := by
  have quotients : num / den ≤ num' / den := Nat.div_le_div_right le
  have logs : (num / den).log2 ≤ (num' / den).log2 := by
    rw [Nat.log2_eq_log_two, Nat.log2_eq_log_two]
    exact Nat.log_mono_right quotients
  unfold lostBits
  omega

/-- The size of the steps between the significands at a quotient, in units of the denominator. -/
def step (num den : Nat) : Nat := den <<< lostBits num den

theorem step_eq (num den : Nat) : step num den = den * 2 ^ lostBits num den :=
  Nat.shiftLeft_eq den (lostBits num den)

theorem step_pos (pos : 0 < den) (num : Nat) : 0 < step num den := by
  rw [step_eq]
  exact Nat.mul_pos pos (Nat.two_pow_pos _)

/-- The rounded significand is the quotient rounded down or up, to the nearer of the two. -/
theorem roundedSignificand_cases (num den : Nat) :
    (roundedSignificand num den = num / step num den ∧ 2 * (num % step num den) ≤ step num den)
      ∨ (roundedSignificand num den = num / step num den + 1
        ∧ step num den ≤ 2 * (num % step num den)) := by
  unfold roundedSignificand
  rw [← step]
  dsimp only
  split
  · next below => exact .inl ⟨rfl, Nat.le_of_lt below⟩
  · next notBelow =>
    split
    · next above => exact .inr ⟨rfl, Nat.le_of_lt above⟩
    · next notAbove =>
      rcases Nat.mod_two_eq_zero_or_one (num / step num den) with even | odd
      · exact .inl ⟨by rw [even, Nat.add_zero], Nat.le_of_not_lt notAbove⟩
      · exact .inr ⟨by rw [odd], Nat.le_of_not_lt notBelow⟩

theorem roundUnits_mul (num den : Nat) :
    roundUnits num den * den = roundedSignificand num den * step num den := by
  rw [roundUnits, Nat.shiftLeft_eq, step_eq, Nat.mul_right_comm, Nat.mul_assoc]

/-- Rounding moves a quotient by half a step at most. -/
theorem roundUnits_near (pos : 0 < den) (num : Nat) :
    2 * (roundUnits num den * den) ≤ 2 * num + step num den
      ∧ 2 * num ≤ 2 * (roundUnits num den * den) + step num den := by
  rw [roundUnits_mul]
  have parts := Nat.div_add_mod' num (step num den)
  have rest := Nat.mod_lt num (step_pos pos num)
  rcases roundedSignificand_cases num den with ⟨down, near⟩ | ⟨up, near⟩
  · rw [down]
    omega
  · rw [up, Nat.add_mul]
    omega

/-- A step is small against a quotient that loses bits. -/
theorem step_mul_le (normal : den * 2 ^ 52 ≤ num) (pos : 0 < den) :
    step num den * 2 ^ 52 ≤ num := by
  have large : 2 ^ 52 ≤ num / den := (Nat.le_div_iff_mul_le pos).2 (by rwa [Nat.mul_comm])
  have positive : num / den ≠ 0 := by
    have := Nat.two_pow_pos 52
    omega
  have bits : lostBits num den + 52 = (num / den).log2 := by
    have := (Nat.le_log2 positive).2 large
    unfold lostBits
    omega
  calc step num den * 2 ^ 52 = den * 2 ^ (num / den).log2 := by
        rw [step_eq, Nat.mul_assoc, ← Nat.pow_add, bits]
    _ ≤ den * (num / den) := Nat.mul_le_mul_left den (Nat.log2_self_le positive)
    _ ≤ num := Nat.mul_div_le num den

/-- A magnitude that binary64 holds is its own rounding. -/
theorem roundUnits_of_representable {significand : Nat} (limited : significand ≤ 2 ^ 53)
    (shift : Nat) (pos : 0 < den) :
    roundUnits ((significand <<< shift) * den) den = significand <<< shift := by
  have quotient : (significand <<< shift) * den / den = significand <<< shift :=
    Nat.mul_div_cancel _ pos
  have bits : lostBits ((significand <<< shift) * den) den = (significand <<< shift).log2 - 52 := by
    rw [lostBits, quotient]
  have kept : 2 ^ ((significand <<< shift).log2 - 52) ∣ significand <<< shift := by
    rw [Nat.shiftLeft_eq]
    rcases Nat.lt_or_eq_of_le limited with below | rfl
    · rcases Nat.eq_zero_or_pos significand with rfl | positive
      · simp
      · have nonzero : significand * 2 ^ shift ≠ 0 :=
          Nat.ne_of_gt (Nat.mul_pos positive (Nat.two_pow_pos shift))
        have size : (significand * 2 ^ shift).log2 < 53 + shift := by
          rw [Nat.log2_lt nonzero, Nat.pow_add]
          exact Nat.mul_lt_mul_of_pos_right below (Nat.two_pow_pos shift)
        exact Nat.dvd_mul_left_of_dvd (Nat.pow_dvd_pow 2 (by omega)) significand
    · rw [← Nat.pow_add, Nat.log2_two_pow]
      exact Nat.pow_dvd_pow 2 (by omega)
  have exact : (significand <<< shift) * den % step ((significand <<< shift) * den) den = 0 := by
    rw [step_eq, bits, Nat.mul_comm den]
    exact Nat.mod_eq_zero_of_dvd (Nat.mul_dvd_mul_right kept den)
  have parts := Nat.div_add_mod' ((significand <<< shift) * den)
    (step ((significand <<< shift) * den) den)
  rw [exact, Nat.add_zero] at parts
  have positive := step_pos pos ((significand <<< shift) * den)
  have down : roundedSignificand ((significand <<< shift) * den) den
      = (significand <<< shift) * den / step ((significand <<< shift) * den) den := by
    rcases roundedSignificand_cases ((significand <<< shift) * den) den with ⟨down, -⟩ | ⟨-, near⟩
    · exact down
    · omega
  have product := roundUnits_mul ((significand <<< shift) * den) den
  rw [down, parts] at product
  exact Nat.eq_of_mul_eq_mul_right pos product

/-- Where bits are lost, the significand has all of its 53 bits. -/
theorem le_roundedSignificand (pos : 0 < den) (lost : 0 < lostBits num den) :
    2 ^ 52 ≤ roundedSignificand num den := by
  have positive : num / den ≠ 0 := by
    intro zero
    simp [lostBits, zero] at lost
  have large : step num den * 2 ^ 52 ≤ num := by
    refine step_mul_le ?_ pos
    have size : 2 ^ 52 ≤ num / den := (Nat.le_log2 positive).1 (by unfold lostBits at lost; omega)
    rw [Nat.mul_comm]
    exact (Nat.le_div_iff_mul_le pos).1 size
  have floor : 2 ^ 52 ≤ num / step num den :=
    (Nat.le_div_iff_mul_le (step_pos pos num)).2 (by rwa [Nat.mul_comm])
  rcases roundedSignificand_cases num den with ⟨down, -⟩ | ⟨up, -⟩ <;> omega

/-- Rounding keeps the order. -/
theorem roundUnits_mono (pos : 0 < den) (le : num ≤ num') :
    roundUnits num den ≤ roundUnits num' den := by
  rcases Nat.lt_or_eq_of_le (lostBits_mono den le) with more | same
  · -- The lower quotient rounds to 2^53 of its steps at most, and the upper to no less than 2^52 of
    -- steps that are at least twice as long.
    have upper : 2 ^ 52 ≤ roundedSignificand num' den :=
      le_roundedSignificand pos (Nat.lt_of_le_of_lt (Nat.zero_le _) more)
    rw [roundUnits, roundUnits, Nat.shiftLeft_eq, Nat.shiftLeft_eq]
    calc roundedSignificand num den * 2 ^ lostBits num den
        ≤ 2 ^ 53 * 2 ^ lostBits num den := Nat.mul_le_mul_right _ (roundedSignificand_le num den)
      _ = 2 ^ 52 * 2 ^ (lostBits num den + 1) := by
        rw [← Nat.pow_add, ← Nat.pow_add]
        congr 1
        omega
      _ ≤ roundedSignificand num' den * 2 ^ lostBits num' den :=
        Nat.mul_le_mul upper (Nat.pow_le_pow_right (by decide) more)
  · have steps : step num' den = step num den := by rw [step_eq, step_eq, same]
    rw [roundUnits, roundUnits, same, Nat.shiftLeft_eq, Nat.shiftLeft_eq]
    apply Nat.mul_le_mul_right
    have here := roundedSignificand_cases num den
    have there := roundedSignificand_cases num' den
    rw [steps] at there
    have floors : num / step num den ≤ num' / step num den := Nat.div_le_div_right le
    have parts := Nat.div_add_mod' num (step num den)
    have parts' := Nat.div_add_mod' num' (step num den)
    rcases Nat.lt_or_eq_of_le floors with below | equal
    · omega
    · rw [← equal] at parts' there
      by_cases numEq : num = num'
      · rw [numEq]
      · omega

/-- A quotient below a magnitude that binary64 holds is rounded to no more than that. -/
theorem roundUnits_le {significand shift : Nat} (limited : significand ≤ 2 ^ 53) (pos : 0 < den)
    (le : num ≤ (significand <<< shift) * den) : roundUnits num den ≤ significand <<< shift :=
  roundUnits_of_representable limited shift pos ▸ roundUnits_mono pos le

/-- The relative error of rounding, where the quotient has 53 bits, is at most 2^-53. -/
theorem roundUnits_error (pos : 0 < den) (normal : num = 0 ∨ den * 2 ^ 52 ≤ num) :
    |(roundUnits num den : ℚ) - num / den| ≤ num / den / 2 ^ 53 := by
  have den0 : (0 : ℚ) < den := by exact_mod_cast pos
  obtain ⟨above, below⟩ : 2 ^ 53 * (roundUnits num den * den) ≤ 2 ^ 53 * num + num
      ∧ 2 ^ 53 * num ≤ 2 ^ 53 * (roundUnits num den * den) + num := by
    obtain ⟨above, below⟩ := roundUnits_near pos num
    rcases normal with rfl | normal
    · have zero := roundUnits_of_representable (Nat.zero_le (2 ^ 53)) 0 pos
      simp only [Nat.zero_shiftLeft, Nat.zero_mul] at zero
      simp [zero]
    · have small := step_mul_le normal pos
      omega
  have above' : (2 : ℚ) ^ 53 * (roundUnits num den * den) ≤ 2 ^ 53 * num + num := by
    exact_mod_cast above
  have below' : (2 : ℚ) ^ 53 * num ≤ 2 ^ 53 * (roundUnits num den * den) + num := by
    exact_mod_cast below
  have quotient : (num : ℚ) = num / den * den := (div_mul_cancel₀ _ (ne_of_gt den0)).symm
  generalize (num : ℚ) / den = x at quotient ⊢
  rw [quotient] at above' below'
  have upper : 2 ^ 53 * (roundUnits num den : ℚ) ≤ 2 ^ 53 * x + x :=
    le_of_mul_le_mul_right (by linarith) den0
  have lower : 2 ^ 53 * x ≤ 2 ^ 53 * (roundUnits num den : ℚ) + x :=
    le_of_mul_le_mul_right (by linarith) den0
  rw [abs_le]
  constructor <;> linarith

/-! ### Integers -/

/-- Below the overflow limit there is a nearest number. -/
theorem exists_ofRatio? (negative : Bool) (num significand shift : Nat) (pos : 0 < den)
    (limited : significand ≤ 2 ^ 53) (le : num * unitsPerOne ≤ (significand <<< shift) * den)
    (below : significand <<< shift < overflowUnits) :
    ∃ x, ofRatio? negative num den = some x ∧ x.negative = negative
      ∧ x.units = roundUnits (num * unitsPerOne) den := by
  have fits : roundUnits (num * unitsPerOne) den < overflowUnits :=
    Nat.lt_of_le_of_lt (roundUnits_le limited pos le) below
  unfold ofRatio?
  dsimp only
  rw [dif_pos fits]
  exact ⟨_, rfl, rfl, rfl⟩

/-- The float next to an integer of 64 bits. -/
theorem ofInt_eq {n : Int} (word : IsWord n) : (ofInt n).negative = decide (n < 0)
    ∧ (ofInt n).units = roundUnits (n.natAbs * unitsPerOne) 1 := by
  have size : n.natAbs ≤ 2 ^ 64 := by
    have bounds := isWord_iff.1 word
    have limits : signedLimit = 2 ^ 63 ∧ UInt64.size = 2 ^ 64 := ⟨rfl, rfl⟩
    omega
  obtain ⟨x, eq, sign, units⟩ := exists_ofRatio? (decide (n < 0)) n.natAbs 1 (64 + 1074)
    Nat.one_pos (by decide)
    (by
      rw [Nat.mul_one, mul_unitsPerOne, Nat.shiftLeft_add, Nat.shiftLeft_eq,
        Nat.shiftLeft_eq _ 1074]
      exact Nat.mul_le_mul_right _ (by simpa [Nat.shiftLeft_eq] using size))
    (by decide +kernel)
  rw [ofInt, eq]
  exact ⟨sign, units⟩

/-- Up to 2^53 integers are exact. -/
theorem toUnits_ofInt {n : Int} (small : n.natAbs ≤ 2 ^ 53) :
    (ofInt n).toUnits = n * unitsPerOne := by
  obtain ⟨sign, units⟩ := ofInt_eq (isWord_of_natAbs_le small)
  have exact : roundUnits (n.natAbs * unitsPerOne) 1 = n.natAbs * unitsPerOne := by
    have kept := roundUnits_of_representable small 1074 Nat.one_pos
    rwa [Nat.mul_one, ← mul_unitsPerOne] at kept
  rw [toUnits, sign, units, exact]
  generalize unitsPerOne = u
  rcases lt_or_ge n 0 with negative | nonnegative
  · have magnitude : (n.natAbs : Int) = -n := by omega
    simp [negative, magnitude]
  · have magnitude : (n.natAbs : Int) = n := by omega
    simp [Int.not_lt.2 nonnegative, magnitude]

/-- The float next to an integer keeps the order of integers. -/
theorem toUnits_ofInt_mono {m n : Int} (wordM : IsWord m) (wordN : IsWord n) (le : m ≤ n) :
    (ofInt m).toUnits ≤ (ofInt n).toUnits := by
  obtain ⟨signM, unitsM⟩ := ofInt_eq wordM
  obtain ⟨signN, unitsN⟩ := ofInt_eq wordN
  have mono {a b : Nat} (h : a ≤ b) :
      roundUnits (a * unitsPerOne) 1 ≤ roundUnits (b * unitsPerOne) 1 :=
    roundUnits_mono (by decide) (Nat.mul_le_mul_right _ h)
  rw [toUnits, toUnits, signM, signN, unitsM, unitsN]
  rcases lt_or_ge m 0 with negativeM | nonnegativeM
  · rcases lt_or_ge n 0 with negativeN | nonnegativeN
    · have magnitudes := mono (show n.natAbs ≤ m.natAbs by omega)
      simp only [negativeM, negativeN, decide_true, if_true]
      omega
    · simp only [negativeM, Int.not_lt.2 nonnegativeN, decide_true, decide_false, if_true,
        Bool.false_eq_true, if_false]
      omega
  · have magnitudes := mono (show m.natAbs ≤ n.natAbs by omega)
    have nonnegativeN : 0 ≤ n := by omega
    simp only [Int.not_lt.2 nonnegativeM, Int.not_lt.2 nonnegativeN, decide_false,
      Bool.false_eq_true, if_false]
    omega

end Binary64

end Schemata
