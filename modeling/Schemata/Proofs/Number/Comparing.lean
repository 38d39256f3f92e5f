import Schemata.Proofs.Number.Rounding
import Schemata.Proofs.Schema.Widening

/-!
# Comparing integers

Bounds, literals and the items of a unique array are compared as binary64. Rounding keeps the order
of integers, and it is exact below 2^53; beyond, it merges integers that differ. So the exclusive
bounds refuse integers on the right side that are merged with the bound, the inclusive bounds accept
integers on the wrong side that are, and merged integers count as equal (`accepts_words`). Where the
integers that are compared are told apart, all three checks are exact.
-/

namespace Schemata

/-- An integer of 64 bits. -/
abbrev Word := { n : Int // IsWord n }

namespace Word

/-- The number in integer form. -/
def toNumber (n : Word) : Number := .integer n.1 n.2

/-- The value in integer form. -/
def toValue (n : Word) : Value := .number n.toNumber

/-- The count of units that an integer is rounded to. -/
def rounded (n : Word) : Int := n.toNumber.toBinary64.toUnits

/-- Whether two integers are rounded to the same number. -/
def Merges (m n : Word) : Prop := m.toNumber.looselyEq n.toNumber = true

variable {m n : Word}

theorem rounded_eq (n : Word) : n.rounded = (Binary64.ofInt n.1).toUnits := rfl

theorem merges_iff : m.Merges n ↔ m.rounded = n.rounded := by
  simp [Merges, Number.looselyEq, Binary64.eq, rounded]

theorem Merges.symm (h : m.Merges n) : n.Merges m := merges_iff.2 (merges_iff.1 h).symm

theorem rounded_mono (le : m ≤ n) : m.rounded ≤ n.rounded :=
  Binary64.toUnits_ofInt_mono m.2 n.2 le

theorem rounded_lt_iff : m.rounded < n.rounded ↔ m < n ∧ ¬m.Merges n := by
  rw [merges_iff]
  constructor
  · intro less
    refine ⟨?_, Int.ne_of_lt less⟩
    by_contra notLess
    exact Int.not_le.2 less (rounded_mono (not_lt.1 notLess))
  · rintro ⟨less, apart⟩
    exact lt_of_le_of_ne (rounded_mono (le_of_lt less)) apart

theorem rounded_le_iff : m.rounded ≤ n.rounded ↔ m ≤ n ∨ m.Merges n := by
  rw [← Int.not_lt, rounded_lt_iff, not_and_or, not_lt, not_not]
  exact or_congr_right ⟨Merges.symm, Merges.symm⟩

/-- Up to 2^53 integers are exact. -/
theorem rounded_of_small (small : n.1.natAbs ≤ 2 ^ 53) : n.rounded = n.1 * unitsPerOne := by
  rw [rounded_eq, Binary64.toUnits_ofInt small]

/-- An integer below 2^53 is told apart from every other. -/
theorem eq_of_merges (small : m.1.natAbs < 2 ^ 53 ∨ n.1.natAbs < 2 ^ 53) (merges : m.Merges n) :
    m = n := by
  wlog less : m < n generalizing m n
  · rcases lt_or_eq_of_le (not_lt.1 less) with greater | same
    · exact (this small.symm merges.symm greater).symm
    · exact same.symm
  -- Between the two lie two neighbours that are both exact.
  obtain ⟨k, low, high, smallK, smallNext⟩ : ∃ k : Int,
      m.1 ≤ k ∧ k + 1 ≤ n.1 ∧ k.natAbs ≤ 2 ^ 53 ∧ (k + 1).natAbs ≤ 2 ^ 53 := by
    have less : m.1 < n.1 := less
    rcases small with smallM | smallN
    · exact ⟨m.1, by omega⟩
    · exact ⟨n.1 - 1, by omega⟩
  let here : Word := ⟨k, isWord_of_natAbs_le smallK⟩
  let next : Word := ⟨k + 1, isWord_of_natAbs_le smallNext⟩
  have unit : (0 : Int) < unitsPerOne := by exact_mod_cast Binary64.unitsPerOne_pos
  have apart : m.rounded < n.rounded :=
    calc m.rounded ≤ here.rounded := rounded_mono low
      _ = k * unitsPerOne := rounded_of_small smallK
      _ < (k + 1) * unitsPerOne := mul_lt_mul_of_pos_right (Int.lt_succ k) unit
      _ = next.rounded := (rounded_of_small (n := next) smallNext).symm
      _ ≤ n.rounded := rounded_mono high
  exact absurd merges (rounded_lt_iff.1 apart).2

end Word

/-! ### Constraints -/

/-- A number breaks no constraint if its rounding keeps every bound and counts as a multiple. -/
theorem NumericConstraints.violation?_eq_none_iff {c : NumericConstraints} {n : Number} :
    c.violation? n = none ↔
      (∀ b, c.greaterThan = some b → b.toBinary64.toUnits < n.toBinary64.toUnits)
      ∧ (∀ b, c.lessThan = some b → n.toBinary64.toUnits < b.toBinary64.toUnits)
      ∧ (∀ b, c.min = some b → b.toBinary64.toUnits ≤ n.toBinary64.toUnits)
      ∧ (∀ b, c.max = some b → n.toBinary64.toUnits ≤ b.toBinary64.toUnits)
      ∧ (∀ b, c.multipleOf = some b → b.toBinary64.units = 0
        ∨ n.toBinary64.isMultipleOf b.toBinary64 = true) := by
  simp [violation?, Option.bind_eq_none_iff, Binary64.le, Binary64.lt, or_iff_not_imp_left]

/-- A node accepts a value if decoding it gives a result. -/
def Node.Accepts (references : References) (limit levels : Nat) (node : Node) (value : Value) :
    Prop :=
  ∃ decoded, decodeAt references limit levels node value = .ok decoded

/-- Bounds in integer form. -/
structure WordBounds where
  /-- Inclusive lower bound. -/
  min : Option Word := none
  /-- Inclusive upper bound. -/
  max : Option Word := none
  /-- Exclusive lower bound. -/
  greaterThan : Option Word := none
  /-- Exclusive upper bound. -/
  lessThan : Option Word := none

namespace WordBounds

/-- The constraint set of the bounds, without a factor. -/
def toConstraints (c : WordBounds) : NumericConstraints where
  min := c.min.map Word.toNumber
  max := c.max.map Word.toNumber
  greaterThan := c.greaterThan.map Word.toNumber
  lessThan := c.lessThan.map Word.toNumber

/-- The integers that a value is compared with. -/
def all (c : WordBounds) : List Word :=
  [c.min, c.max, c.greaterThan, c.lessThan].reduceOption

/-- The integer keeps all bounds. -/
def Admits (c : WordBounds) (n : Word) : Prop :=
  (∀ b, c.greaterThan = some b → b < n) ∧ (∀ b, c.lessThan = some b → n < b)
    ∧ (∀ b, c.min = some b → b ≤ n) ∧ ∀ b, c.max = some b → n ≤ b

/-- The integer keeps all bounds after rounding: one that is merged with a bound keeps an inclusive
bound, and no exclusive one. -/
def AdmitsRounded (c : WordBounds) (n : Word) : Prop :=
  (∀ b, c.greaterThan = some b → b < n ∧ ¬b.Merges n)
    ∧ (∀ b, c.lessThan = some b → n < b ∧ ¬b.Merges n)
    ∧ (∀ b, c.min = some b → b ≤ n ∨ b.Merges n)
    ∧ ∀ b, c.max = some b → n ≤ b ∨ b.Merges n

variable {c : WordBounds} {n : Word}

theorem violation?_eq_none_iff :
    c.toConstraints.violation? n.toNumber = none ↔ c.AdmitsRounded n := by
  have swapped (b : Word) : b.Merges n ↔ n.Merges b := ⟨.symm, .symm⟩
  have bound (b : Option Word) (p : Number → Prop) :
      (∀ x, b.map Word.toNumber = some x → p x) ↔ ∀ w, b = some w → p w.toNumber := by
    cases b <;> simp
  rw [NumericConstraints.violation?_eq_none_iff, AdmitsRounded]
  simp only [toConstraints, bound, reduceCtorEq, false_implies, implies_true, and_true]
  refine and_congr ?_ (and_congr ?_ (and_congr ?_ ?_)) <;> refine forall₂_congr fun b _ ↦ ?_
  · exact Word.rounded_lt_iff
  · rw [swapped]
    exact Word.rounded_lt_iff
  · exact Word.rounded_le_iff
  · rw [swapped]
    exact Word.rounded_le_iff

/-- Bounds that are told apart from an integer admit it as they should. -/
theorem admitsRounded_iff (apart : ∀ b ∈ c.all, b.Merges n → b = n) :
    c.AdmitsRounded n ↔ c.Admits n := by
  have among {o : Option Word} (listed : o ∈ [c.min, c.max, c.greaterThan, c.lessThan]) {b : Word}
      (eq : o = some b) : b.Merges n → b = n :=
    apart b (List.mem_filterMap.2 ⟨o, listed, eq⟩)
  refine and_congr ?_ (and_congr ?_ (and_congr ?_ ?_)) <;> refine forall₂_congr fun b eq ↦ ?_ <;>
    have told := among (by simp) eq
  · exact ⟨And.left, fun less ↦ ⟨less, fun merges ↦ less.ne (told merges)⟩⟩
  · exact ⟨And.left, fun less ↦ ⟨less, fun merges ↦ less.ne (told merges).symm⟩⟩
  · exact ⟨fun h ↦ h.elim id fun merges ↦ (told merges).le, Or.inl⟩
  · exact ⟨fun h ↦ h.elim id fun merges ↦ (told merges).ge, Or.inl⟩

end WordBounds

namespace Node.Accepts

variable {references : References} {limit levels : Nat}

/-- An integer is accepted where it breaks no constraint, as a number and as an integer. -/
theorem numeric_iff {c : NumericConstraints} {n : Word} {node : Node}
    (numeric : node = .number c ∨ node = .integer c) :
    node.Accepts references limit levels n.toValue ↔ c.violation? n.toNumber = none := by
  rcases numeric with rfl | rfl
  · simp [Accepts, decodeAt_number, Word.toValue]
  · simp [Accepts, decodeAt_integer, Word.toValue, Word.toNumber, Number.isIntegral]

/-- Bounds are checked after rounding. -/
theorem bounds_iff {c : WordBounds} {n : Word} {node : Node}
    (numeric : node = .number c.toConstraints ∨ node = .integer c.toConstraints) :
    node.Accepts references limit levels n.toValue ↔ c.AdmitsRounded n := by
  rw [numeric_iff numeric, WordBounds.violation?_eq_none_iff]

/-- A literal lists an integer if it lists one that is merged with it. -/
theorem literal_iff {type : LiteralType} {values : List Word} {n : Word}
    (listed : type.values = values.map Word.toValue) :
    (Node.literal type).Accepts references limit levels n.toValue ↔ ∃ m ∈ values, m.Merges n := by
  simp [Accepts, decodeAt_literal, listed, Word.toValue, Value.looselyEq, Word.Merges]

/-- The items of a unique array must be told apart. -/
theorem unique_iff {place : Option Place} {items : List Word} :
    (Node.array place (.integer {}) { unique := true }).Accepts references limit (levels + 1)
        (.array (items.map Word.toValue)) ↔ items.Pairwise fun m n ↦ ¬m.Merges n := by
  have pairwise : Value.hasRepeats (items.map Word.toValue) = false ↔
      items.Pairwise fun m n ↦ ¬m.Merges n := by
    rw [Value.hasRepeats_eq_false_iff, List.pairwise_map]
    refine List.Pairwise.iff fun m n ↦ ?_
    rw [← Bool.not_eq_true]
    exact not_congr ⟨Word.Merges.symm, Word.Merges.symm⟩
  rw [← pairwise, Accepts]
  constructor
  · rintro ⟨_, ok⟩
    obtain ⟨_, _, _, -, eq, sound, -⟩ := decodeAt_array.1 ok
    cases eq
    exact (ArrayConstraints.violation?_eq_none_iff.1 sound).2.2.2 rfl
  · intro distinct
    refine ⟨.array (items.map Word.toValue), decodeAt_array.2 ⟨levels, _, _, rfl, rfl, ?_, ?_, rfl⟩⟩
    · exact ArrayConstraints.violation?_eq_none_iff.2 ⟨by simp, by simp, by simp, fun _ ↦ distinct⟩
    · refine List.forall₂_same.2 (List.forall_mem_map.2 fun n _ ↦ ?_)
      exact decodeAt_integer.2 ⟨n.toNumber, rfl, rfl, rfl, rfl⟩

end Node.Accepts

/-- How integers are checked: bounds, literals and uniqueness all compare what the integers are
rounded to, and are exact where the integers compared are told apart. One below 2^53 is told apart
from every other. -/
theorem accepts_words (references : References) (limit levels : Nat) :
    (∀ (c : WordBounds) (n : Word) (node : Node),
      node = .number c.toConstraints ∨ node = .integer c.toConstraints →
        (node.Accepts references limit levels n.toValue ↔ c.AdmitsRounded n)
        ∧ ((∀ b ∈ c.all, b.Merges n → b = n) →
          (node.Accepts references limit levels n.toValue ↔ c.Admits n)))
    ∧ (∀ (type : LiteralType) (values : List Word) (n : Word),
      type.values = values.map Word.toValue →
        ((Node.literal type).Accepts references limit levels n.toValue ↔ ∃ m ∈ values, m.Merges n)
        ∧ ((∀ m ∈ values, m.Merges n → m = n) →
          ((Node.literal type).Accepts references limit levels n.toValue ↔ n ∈ values)))
    ∧ (∀ (place : Option Place) (items : List Word),
      ((Node.array place (.integer {}) { unique := true }).Accepts references limit (levels + 1)
        (.array (items.map Word.toValue)) ↔ items.Pairwise fun m n ↦ ¬m.Merges n)
      ∧ ((∀ m ∈ items, ∀ n ∈ items, m.Merges n → m = n) →
        ((Node.array place (.integer {}) { unique := true }).Accepts references limit (levels + 1)
          (.array (items.map Word.toValue)) ↔ items.Nodup)))
    ∧ ∀ m n : Word, m.1.natAbs < 2 ^ 53 ∨ n.1.natAbs < 2 ^ 53 → m.Merges n → m = n := by
  refine ⟨fun c n node numeric ↦ ⟨Node.Accepts.bounds_iff numeric, fun apart ↦ ?_⟩,
    fun type values n listed ↦ ⟨Node.Accepts.literal_iff listed, fun apart ↦ ?_⟩,
    fun place items ↦ ⟨Node.Accepts.unique_iff, fun apart ↦ ?_⟩, fun m n ↦ Word.eq_of_merges⟩
  · rw [Node.Accepts.bounds_iff numeric, WordBounds.admitsRounded_iff apart]
  · rw [Node.Accepts.literal_iff listed]
    constructor
    · rintro ⟨m, member, merges⟩
      exact apart m member merges ▸ member
    · exact fun member ↦ ⟨n, member, Word.merges_iff.2 rfl⟩
  · rw [Node.Accepts.unique_iff, List.Nodup]
    refine List.Pairwise.iff_of_mem fun {m n} hm hn ↦ not_congr ⟨apart m hm n hn, ?_⟩
    rintro rfl
    exact Word.merges_iff.2 rfl

/-- One hundred is told apart from all that it is compared with here, so it keeps the bounds, is
listed, and does not repeat another item. -/
theorem accepts_words_hundred :
    (Node.integer (WordBounds.toConstraints
        { min := some ⟨100, by decide⟩
          lessThan := some ⟨9223372036854775808, by decide⟩ })).Accepts
            [] 0 0 (Word.toValue ⟨100, by decide⟩)
      ∧ (Node.literal ⟨[.number (.integer 7 (by decide)), .number (.integer 100 (by decide))],
          by simp, rfl⟩).Accepts [] 0 0 (Word.toValue ⟨100, by decide⟩)
      ∧ (Node.array none (.integer {}) { unique := true }).Accepts [] 0 1
          (.array ([⟨100, by decide⟩, ⟨-7, by decide⟩].map Word.toValue)) := by
  obtain ⟨bounds, literal, unique, apart⟩ := accepts_words [] 0 0
  refine ⟨?_, ?_, ?_⟩
  · refine ((bounds _ _ _ (.inr rfl)).2 fun b _ ↦ apart b _ (.inr (by decide))).2 ?_
    simp [WordBounds.Admits]
  · refine ((literal _ [⟨7, by decide⟩, ⟨100, by decide⟩] _ rfl).2
      fun m _ ↦ apart m _ (.inr (by decide))).2 ?_
    simp
  · refine ((unique _ _).2 fun m member n _ ↦ apart m n (.inl ?_)).2 (by decide)
    revert m
    decide

/-- The integer 2^53, up to which binary64 holds all integers. -/
def Word.lastHeld : Word := ⟨9007199254740992, by decide⟩

/-- The integer 2^53 + 1, which is rounded to its neighbour. -/
def Word.firstMerged : Word := ⟨9007199254740993, by decide⟩

/-- The two neighbours break every check: the lower one does not count as less, the literal of one
accepts the other, and together they are not unique. -/
theorem neighbours_merged :
    ¬((Node.integer (WordBounds.toConstraints { lessThan := some .firstMerged })).Accepts [] 0 0
        Word.lastHeld.toValue ↔ WordBounds.Admits { lessThan := some .firstMerged } .lastHeld)
      ∧ ¬((Node.literal ⟨[Word.lastHeld.toValue], by simp, rfl⟩).Accepts [] 0 0
        Word.firstMerged.toValue ↔ Word.firstMerged ∈ [Word.lastHeld])
      ∧ ¬((Node.array none (.integer {}) { unique := true }).Accepts [] 0 1
        (.array ([.lastHeld, .firstMerged].map Word.toValue))
          ↔ [Word.lastHeld, .firstMerged].Nodup) := by
  have merged : Word.lastHeld.Merges .firstMerged := by
    rw [Word.Merges]
    decide +kernel
  refine ⟨fun claimed ↦ ?_, fun claimed ↦ ?_, fun claimed ↦ ?_⟩
  · have admitted : WordBounds.Admits { lessThan := some .firstMerged } .lastHeld := by
      simp only [WordBounds.Admits, reduceCtorEq, false_implies, implies_true, and_true, true_and]
      rintro _ ⟨⟩
      decide
    have kept := (Node.Accepts.bounds_iff (.inr rfl)).1 (claimed.2 admitted)
    exact (kept.2.1 _ rfl).2 merged.symm
  · have listed : [Word.lastHeld.toValue] = [Word.lastHeld].map Word.toValue := rfl
    exact absurd (claimed.1 ((Node.Accepts.literal_iff listed).2 ⟨_, by simp, merged⟩)) (by decide)
  · have apart := Node.Accepts.unique_iff.1 (claimed.2 (by decide))
    simp [merged] at apart

end Schemata
