import Schemata.Proofs.Entries
import Schemata.Value

/-!
# Equality of values up to the order of keys

Two relations between values forget the order of an object's entries. `same` is the equality that
the engine uses: it compares numbers numerically within a form, so it identifies the two zeros.
`Reordered` is finer, it only lets entries move; what is decided by the text of a number cannot tell
two reordered values apart, nor can `same` (`same_congr`).
-/

namespace Schemata

/-- Equality of form and value is reflexive. -/
theorem Number.same_refl (n : Number) : n.same n = true := by
  cases n with
  | integer m _ => simp [Number.same]
  | float x => simp [Number.same, Binary64.eq]

/-- Equality of numbers has no direction. -/
theorem Number.same_symm {m n : Number} (equal : m.same n = true) : n.same m = true := by
  cases m with
  | integer => cases n with
    | integer =>
      simp only [Number.same, beq_iff_eq] at equal ⊢
      exact equal.symm
    | float => cases equal
  | float => cases n with
    | integer => cases equal
    | float =>
      simp only [Number.same, Binary64.eq, beq_iff_eq] at equal ⊢
      exact equal.symm

namespace Value

open Entries (Distinct)

/-- Induction on a value: what holds of all items of an array, or of all values of an object, is
given for them. -/
@[elab_as_elim]
theorem induction {motive : Value → Prop} (null : motive .null) (bool : ∀ b, motive (.bool b))
    (number : ∀ n, motive (.number n)) (string : ∀ s, motive (.string s))
    (symbol : ∀ s, motive (.symbol s))
    (array : ∀ items, (∀ item ∈ items, motive item) → motive (.array items))
    (object : ∀ entries, (∀ entry ∈ entries, motive entry.2) → motive (.object entries))
    (value : Value) : motive value :=
  @Value.rec motive (fun items ↦ ∀ item ∈ items, motive item)
    (fun entries ↦ ∀ entry ∈ entries, motive entry.2) (fun entry ↦ motive entry.2)
    null bool number string symbol array object
    (by simp) (fun _ _ head tail ↦ List.forall_mem_cons.2 ⟨head, tail⟩)
    (by simp) (fun _ _ head tail ↦ List.forall_mem_cons.2 ⟨head, tail⟩)
    (fun _ _ h ↦ h) value

/-! ### Predicates on all values within a value -/

theorem symbolFree_array_iff {items : List Value} :
    (array items).SymbolFree ↔ ∀ item ∈ items, item.SymbolFree := by
  rw [SymbolFree]
  induction items with
  | nil => simp [SymbolFreeItems]
  | cons item rest ih => simp [SymbolFreeItems, ih]

theorem symbolFree_object_iff {entries : Entries Value} :
    (object entries).SymbolFree ↔ ∀ entry ∈ entries, entry.2.SymbolFree := by
  rw [SymbolFree]
  induction entries with
  | nil => simp [SymbolFreeEntries]
  | cons entry rest ih => simp [SymbolFreeEntries, ih]

theorem wellFormed_array_iff {items : List Value} :
    (array items).WellFormed ↔ ∀ item ∈ items, item.WellFormed := by
  rw [WellFormed]
  induction items with
  | nil => simp [WellFormedItems]
  | cons item rest ih => simp [WellFormedItems, ih]

theorem wellFormed_object_iff {entries : Entries Value} :
    (object entries).WellFormed ↔ Distinct entries ∧ ∀ entry ∈ entries, entry.2.WellFormed := by
  have values : WellFormedEntries entries ↔ ∀ entry ∈ entries, entry.2.WellFormed := by
    induction entries with
    | nil => simp [WellFormedEntries]
    | cons entry rest ih => simp [WellFormedEntries, ih]
  rw [WellFormed, values]

theorem SymbolFree.of_get? {entries : Entries Value} (free : (object entries).SymbolFree)
    {key : String} {value : Value} (found : Entries.get? key entries = some value) :
    value.SymbolFree :=
  symbolFree_object_iff.1 free _ (Entries.mem_of_get?_eq_some found)

theorem WellFormed.of_get? {entries : Entries Value} (formed : (object entries).WellFormed)
    {key : String} {value : Value} (found : Entries.get? key entries = some value) :
    value.WellFormed :=
  (wellFormed_object_iff.1 formed).2 _ (Entries.mem_of_get?_eq_some found)

theorem isNull_eq_true_iff {value : Value} : value.isNull = true ↔ value = .null := by
  cases value <;> simp [isNull]

/-! ### Equality -/

theorem same_array_iff {xs ys : List Value} :
    same (.array xs) (.array ys) = true ↔ List.Forall₂ (fun x y ↦ same x y = true) xs ys := by
  rw [same]
  induction xs generalizing ys with
  | nil => cases ys <;> simp [sameItems]
  | cons x xs ih =>
    cases ys with
    | nil => simp [sameItems]
    | cons y ys => simp [sameItems, ih]

private theorem sameEntries_iff {xs ys : Entries Value} :
    sameEntries xs ys = true ↔
      ∀ entry ∈ xs, ∃ y, Entries.get? entry.1 ys = some y ∧ same entry.2 y = true := by
  induction xs with
  | nil => simp [sameEntries]
  | cons entry rest ih =>
    obtain ⟨key, x⟩ := entry
    cases hy : Entries.get? key ys with
    | none => simp [sameEntries, hy]
    | some y => simp [sameEntries, hy, ih]

/-- Objects with distinct keys are equal if their values are, key by key. -/
theorem same_object_iff {xs ys : Entries Value} (hx : Distinct xs) (hy : Distinct ys) :
    same (.object xs) (.object ys) = true ↔
      Entries.Related (fun x y ↦ same x y = true) xs ys := by
  rw [same, Bool.and_eq_true, beq_iff_eq, sameEntries_iff]
  constructor
  · rintro ⟨length, values⟩ key
    have sub : ∀ key ∈ Entries.keys xs, key ∈ Entries.keys ys := by
      intro k hk
      obtain ⟨⟨_, x⟩, member, rfl⟩ := List.mem_map.1 hk
      obtain ⟨y, found, -⟩ := values _ member
      exact Entries.mem_keys (Entries.mem_of_get?_eq_some found)
    cases found : Entries.get? key xs with
    | none =>
      have absent : key ∉ Entries.keys ys := by
        rw [← Entries.keys_iff_of_length hx length sub]
        exact Entries.get?_eq_none_iff.1 found
      rw [Entries.get?_eq_none_iff.2 absent]
      exact .none
    | some x =>
      obtain ⟨y, hy, equal⟩ := values _ (Entries.mem_of_get?_eq_some found)
      rw [hy]
      exact .some equal
  · intro related
    refine ⟨Entries.length_eq_of_keys hx hy related.mem_keys_iff, fun entry member ↦ ?_⟩
    exact related.some_left (Entries.get?_eq_some_of_mem hx member)

theorem same_refl {value : Value} (formed : value.WellFormed) : value.same value = true := by
  induction value using induction with
  | null => rfl
  | bool b => simp [same]
  | number n => simpa [same] using n.same_refl
  | string s => simp [same]
  | symbol s => simp [same]
  | array items ih =>
    rw [same_array_iff, List.forall₂_same]
    exact fun item member ↦ ih item member (wellFormed_array_iff.1 formed item member)
  | object entries ih =>
    obtain ⟨distinct, values⟩ := wellFormed_object_iff.1 formed
    rw [same_object_iff distinct distinct]
    intro key
    cases found : Entries.get? key entries with
    | none => exact .none
    | some x =>
      have member := Entries.mem_of_get?_eq_some found
      exact .some (ih _ member (values _ member))

/-- Induction on two equal values. -/
@[elab_as_elim]
theorem same_induction {motive : Value → Value → Prop} (null : motive .null .null)
    (bool : ∀ b, motive (.bool b) (.bool b))
    (number : ∀ m n : Number, m.same n = true → motive (.number m) (.number n))
    (string : ∀ s, motive (.string s) (.string s)) (symbol : ∀ s, motive (.symbol s) (.symbol s))
    (array : ∀ xs ys, List.Forall₂ motive xs ys → motive (.array xs) (.array ys))
    (object : ∀ xs ys, Distinct xs → Distinct ys → Entries.Related motive xs ys →
      motive (.object xs) (.object ys))
    {x y : Value} (fx : x.WellFormed) (fy : y.WellFormed) (equal : x.same y = true) :
    motive x y := by
  induction x using induction generalizing y with
  | null =>
    cases y with
    | null => exact null
    | _ => simp [same] at equal
  | bool b =>
    cases y with
    | bool c =>
      obtain rfl : b = c := by simpa [same] using equal
      exact bool b
    | _ => simp [same] at equal
  | number m =>
    cases y with
    | number n => exact number m n (by simpa [same] using equal)
    | _ => simp [same] at equal
  | string s =>
    cases y with
    | string t =>
      obtain rfl : s = t := by simpa [same] using equal
      exact string s
    | _ => simp [same] at equal
  | symbol s =>
    cases y with
    | symbol t =>
      obtain rfl : s = t := by simpa [same] using equal
      exact symbol s
    | _ => simp [same] at equal
  | array xs ih =>
    cases y with
    | array ys =>
      rw [wellFormed_array_iff] at fx fy
      rw [same_array_iff, List.forall₂_iff_get] at equal
      refine array xs ys (List.forall₂_iff_get.2 ⟨equal.1, fun i hi hj ↦ ?_⟩)
      exact ih _ (List.get_mem xs ⟨i, hi⟩) (fx _ (List.get_mem ..)) (fy _ (List.get_mem ..))
        (equal.2 i hi hj)
    | _ => simp [same] at equal
  | object xs ih =>
    cases y with
    | object ys =>
      have dx := (wellFormed_object_iff.1 fx).1
      have dy := (wellFormed_object_iff.1 fy).1
      rw [same_object_iff dx dy] at equal
      refine object xs ys dx dy fun key ↦ ?_
      cases found : Entries.get? key xs with
      | none =>
        rw [equal.none_left found]
        exact .none
      | some a =>
        obtain ⟨b, found', equalB⟩ := equal.some_left found
        rw [found']
        exact .some (ih _ (Entries.mem_of_get?_eq_some found) (fx.of_get? found) (fy.of_get? found')
          equalB)
    | _ => simp [same] at equal

/-- Equality has no direction. -/
theorem same_symm {x y : Value} (fx : x.WellFormed) (fy : y.WellFormed) (equal : x.same y = true) :
    y.same x = true := by
  refine same_induction (motive := fun x y ↦ y.same x = true) rfl (fun b ↦ by simp [same])
    (fun m n equal ↦ ?_) (fun s ↦ by simp [same]) (fun s ↦ by simp [same])
    (fun xs ys each ↦ same_array_iff.2 each.flip)
    (fun xs ys dx dy each ↦ (same_object_iff dy dx).2 each.flip) fx fy equal
  rw [same]
  exact Number.same_symm equal

/-- Only null equals null. -/
theorem eq_null_of_same {value : Value} (h : value.same .null = true) : value = .null := by
  cases value <;> simp [same] at h ⊢

/-! ### Moving entries -/

/-- The values differ at most in the order of the entries of objects, at any depth. -/
inductive Reordered : Value → Value → Prop where
  /-- Nothing moves. -/
  | refl (value : Value) : Reordered value value
  /-- Items keep their places. -/
  | array {xs ys : List Value} (length : xs.length = ys.length)
      (items : ∀ (i : Nat) (x y : Value), xs[i]? = some x → ys[i]? = some y → Reordered x y) :
      Reordered (.array xs) (.array ys)
  /-- Entries keep their keys. -/
  | object {xs ys : Entries Value}
      (keys : ∀ key, (Entries.get? key xs).isSome = (Entries.get? key ys).isSome)
      (values : ∀ (key : String) (x y : Value), Entries.get? key xs = some x →
        Entries.get? key ys = some y → Reordered x y) :
      Reordered (.object xs) (.object ys)

namespace Reordered

theorem of_forall₂ {xs ys : List Value} (h : List.Forall₂ Reordered xs ys) :
    Reordered (.array xs) (.array ys) := by
  refine .array h.length_eq fun i x y hx hy ↦ ?_
  obtain ⟨hi, rfl⟩ := List.getElem?_eq_some_iff.1 hx
  obtain ⟨hj, rfl⟩ := List.getElem?_eq_some_iff.1 hy
  exact h.get hi hj

theorem of_related {xs ys : Entries Value} (h : Entries.Related Reordered xs ys) :
    Reordered (.object xs) (.object ys) := by
  refine .object (fun key ↦ ?_) fun key x y hx hy ↦ ?_
  · rw [Bool.eq_iff_iff, ← Entries.contains, ← Entries.contains, Entries.contains_eq_true_iff,
      Entries.contains_eq_true_iff]
    exact h.mem_keys_iff key
  · obtain ⟨z, hz, moved⟩ := h.some_left hx
    rw [hy] at hz
    exact Option.some.inj hz ▸ moved

theorem forall₂ {xs ys : List Value} (h : Reordered (.array xs) (.array ys)) :
    List.Forall₂ Reordered xs ys := by
  cases h with
  | refl => exact List.forall₂_same.2 fun x _ ↦ .refl x
  | array length items =>
    exact List.forall₂_iff_get.2 ⟨length, fun i hi hj ↦ items i _ _ (by simp [hi]) (by simp [hj])⟩

theorem related {xs ys : Entries Value} (h : Reordered (.object xs) (.object ys)) :
    Entries.Related Reordered xs ys := by
  intro key
  cases h with
  | refl =>
    cases Entries.get? key xs with
    | none => exact .none
    | some x => exact .some (.refl x)
  | object keys values =>
    have present := keys key
    cases hx : Entries.get? key xs with
    | none =>
      cases hy : Entries.get? key ys with
      | none => exact .none
      | some y => simp [hx, hy] at present
    | some x =>
      cases hy : Entries.get? key ys with
      | none => simp [hx, hy] at present
      | some y => exact .some (values key x y hx hy)

theorem symm {x y : Value} (h : Reordered x y) : Reordered y x := by
  induction h with
  | refl value => exact .refl value
  | array length _ ih => exact .array length.symm fun i y x hy hx ↦ ih i x y hx hy
  | object keys _ ih =>
    exact .object (fun key ↦ (keys key).symm) fun key y x hy hx ↦ ih key x y hx hy

theorem isNull_eq {x y : Value} (h : Reordered x y) : x.isNull = y.isNull := by
  cases h <;> rfl

end Reordered

/-- Equality does not depend on the order of entries. -/
theorem same_congr {x x' y y' : Value} (hx : Reordered x x') (hy : Reordered y y')
    (fx : x.WellFormed) (fx' : x'.WellFormed) (fy : y.WellFormed) (fy' : y'.WellFormed)
    (equal : x.same y = true) : x'.same y' = true := by
  induction x using induction generalizing x' y y' with
  | null | bool | number | string | symbol =>
    cases hx
    cases y <;> simp [same] at equal
    cases hy
    simp [same, equal]
  | array xs ih =>
    cases y with
    | array ys =>
      cases x' with
      | array xs' =>
        cases y' with
        | array ys' =>
          rw [same_array_iff] at equal ⊢
          have movedX := hx.forall₂
          have movedY := hy.forall₂
          rw [wellFormed_array_iff] at fx fx' fy fy'
          rw [List.forall₂_iff_get] at equal movedX movedY ⊢
          refine ⟨by omega, fun i hi hj ↦ ?_⟩
          have hi' : i < xs.length := by omega
          have hj' : i < ys.length := by omega
          exact ih _ (List.get_mem xs ⟨i, hi'⟩) (movedX.2 i hi' hi) (movedY.2 i hj' hj)
            (fx _ (List.get_mem ..)) (fx' _ (List.get_mem ..)) (fy _ (List.get_mem ..))
            (fy' _ (List.get_mem ..)) (equal.2 i hi' hj')
        | _ => cases hy
      | _ => cases hx
    | _ => simp [same] at equal
  | object xs ih =>
    cases y with
    | object ys =>
      cases x' with
      | object xs' =>
        cases y' with
        | object ys' =>
          have dx := (wellFormed_object_iff.1 fx).1
          have dx' := (wellFormed_object_iff.1 fx').1
          have dy := (wellFormed_object_iff.1 fy).1
          have dy' := (wellFormed_object_iff.1 fy').1
          rw [same_object_iff dx dy] at equal
          rw [same_object_iff dx' dy']
          intro key
          cases hkey : Entries.get? key xs with
          | none =>
            rw [hx.related.none_left hkey, hy.related.none_left (equal.none_left hkey)]
            exact .none
          | some a =>
            obtain ⟨a', ha', movedA⟩ := hx.related.some_left hkey
            obtain ⟨b, hb, equalB⟩ := equal.some_left hkey
            obtain ⟨b', hb', movedB⟩ := hy.related.some_left hb
            rw [ha', hb']
            exact .some (ih _ (Entries.mem_of_get?_eq_some hkey) movedA movedB (fx.of_get? hkey)
              (fx'.of_get? ha') (fy.of_get? hb) (fy'.of_get? hb') equalB)
        | _ => cases hy
      | _ => cases hx
    | _ => simp [same] at equal

/-- Unless both values are numbers, loose equality is equality. -/
theorem looselyEq_eq_same {x y : Value} (h : ¬((∃ m, x = .number m) ∧ ∃ n, y = .number n)) :
    x.looselyEq y = x.same y := by
  cases x <;> cases y <;> simp_all [looselyEq]

/-- Loose equality does not depend on the order of entries. -/
theorem looselyEq_congr {x x' y y' : Value} (hx : Reordered x x') (hy : Reordered y y')
    (fx : x.WellFormed) (fx' : x'.WellFormed) (fy : y.WellFormed) (fy' : y'.WellFormed)
    (equal : x.looselyEq y = true) : x'.looselyEq y' = true := by
  by_cases numbers : (∃ m, x = .number m) ∧ ∃ n, y = .number n
  · obtain ⟨⟨m, rfl⟩, n, rfl⟩ := numbers
    cases hx
    cases hy
    exact equal
  · have numbers' : ¬((∃ m, x' = .number m) ∧ ∃ n, y' = .number n) := by
      rintro ⟨⟨m, rfl⟩, n, rfl⟩
      cases hx
      cases hy
      exact numbers ⟨⟨m, rfl⟩, n, rfl⟩
    rw [looselyEq_eq_same numbers] at equal
    rw [looselyEq_eq_same numbers']
    exact same_congr hx hy fx fx' fy fy' equal

/-- Loose equality has no direction. -/
theorem looselyEq_symm {x y : Value} (fx : x.WellFormed) (fy : y.WellFormed)
    (equal : x.looselyEq y = true) : y.looselyEq x = true := by
  by_cases numbers : (∃ m, x = .number m) ∧ ∃ n, y = .number n
  · obtain ⟨⟨m, rfl⟩, n, rfl⟩ := numbers
    simp only [looselyEq, Number.looselyEq, Binary64.eq, beq_iff_eq] at equal ⊢
    exact equal.symm
  · rw [looselyEq_eq_same numbers] at equal
    rw [looselyEq_eq_same (mt And.symm numbers)]
    exact same_symm fx fy equal

end Value

end Schemata
