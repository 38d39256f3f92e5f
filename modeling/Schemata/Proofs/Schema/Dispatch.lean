import Schemata.Proofs.Schema.KeyOrder

/-!
# Dispatch and trial

A discriminated union looks its variant up by the text of the tag; a union of the same variants
tries one after the other, and there the discriminator is compared by value. The two ways of
choosing accept the same inputs with the same results but for one difference: the value of a number
does not determine its text. A tag of `1.0` is a value that the variant `"1"` accepts, and a text
that names no variant, or another one.
-/

namespace Schemata

namespace Node

/-- The one value that a struct allows under the discriminator, if it declares it so. -/
def tagValue? (discriminator : String) : Node → Option Value
  | .struct _ fields _ =>
    match Entries.get? discriminator fields with
    | some (.literal type) =>
      match type.values with
      | [only] => some only
      | _ => none
    | _ => none
  | _ => none

/-- A variant that fits its tag allows one value, which has the tag as its key. -/
theorem exists_tagValue? {discriminator tag : String} {variant : Node}
    (fits : variantFault? discriminator tag variant = none) :
    ∃ only, variant.tagValue? discriminator = some only ∧ only.toKey = tag := by
  obtain ⟨place, fields, extraKeys, type, only, rfl, declared, values, key⟩ :=
    variantFault?_eq_none fits
  exact ⟨only, by simp only [tagValue?, declared, values], key⟩

theorem isScalar_tagValue? {discriminator : String} {variant : Node} {only : Value}
    (allows : variant.tagValue? discriminator = some only) : only.isScalar = true := by
  unfold tagValue? at allows
  split at allows
  · split at allows
    · next type _ =>
      split at allows
      · next values =>
        have scalars := type.scalars
        rw [values] at scalars
        simpa [← Option.some.inj allows] using scalars
      · cases allows
    · cases allows
  · cases allows

/-- Where the tag of an input is a number, no variant allows that number in another form: variants
whose number is equal to it by value write it with the same text. -/
def TagWrittenAlike (discriminator : String) (variants : Entries Node) (value : Value) : Prop :=
  ∀ n, value.get? discriminator = some (.number n) → ∀ variant ∈ Entries.values variants, ∀ m,
    variant.tagValue? discriminator = some (.number m) → m.looselyEq n = true → m.text = n.text

end Node

section Choosing

variable {references : References} {limit levels : Nat} {discriminator : String}

/-- A variant accepts no object but one whose tag is equal by value to its own. -/
theorem exists_tag_of_decodeAt {tag : String} {variant : Node} (formed : variant.Formed)
    (fits : Node.variantFault? discriminator tag variant = none) {value decoded : Value}
    (ok : decodeAt references limit levels variant value = .ok decoded) :
    ∃ input written only, value = .object input
      ∧ Entries.get? discriminator input = some written
      ∧ variant.tagValue? discriminator = some only ∧ only.toKey = tag
      ∧ only.looselyEq written = true := by
  obtain ⟨place, fields, extraKeys, type, only, rfl, declared, values, key⟩ :=
    Node.variantFault?_eq_none fits
  obtain ⟨l, input, out, rfl, rfl, -, oks, -⟩ := decodeAt_struct.1 ok
  have field := get?_of_decodeFields formed oks (Entries.mem_of_get?_eq_some declared)
  cases found : Entries.get? discriminator input with
  | none =>
    -- A literal is not optional, so it is never absent.
    rw [found] at field
    cases field
  | some written =>
    rw [found] at field
    obtain ⟨d, okTag, -⟩ := field
    obtain ⟨-, ⟨allowed, listed, equal⟩, -⟩ := decodeAt_literal.1 okTag
    rw [values, List.mem_singleton] at listed
    subst listed
    exact ⟨input, written, allowed, rfl, found, by simp only [Node.tagValue?, declared, values],
      key, equal⟩

/-- Equal values other than numbers serve as the same key, if they are scalars. -/
private theorem toKey_eq_of_looselyEq {only written : Value} (scalar : only.isScalar = true)
    (equal : only.looselyEq written = true)
    (numbers : ∀ m n, only = .number m → written = .number n → m.text = n.text) :
    only.toKey = written.toKey := by
  cases only with
  | null | symbol | array | object => cases scalar
  | bool | string =>
    cases written <;> simp_all [Value.looselyEq, Value.same]
  | number m =>
    cases written with
    | number n =>
      have same := numbers m n rfl rfl
      simp [Value.toKey, Value.text, Value.toJson, Json.compact, Json.compactOnto, same]
    | _ => cases equal

/-- Of the variants, only the one under the key of the tag can accept an input whose tag is written
alike. -/
theorem key_of_decodeAt {variants : Entries Node}
    (built : Node.checkVariants discriminator [] variants = .ok ())
    (formed : ∀ variant ∈ Entries.values variants, variant.Formed) {value decoded : Value}
    (alike : Node.TagWrittenAlike discriminator variants value) {tag : String} {variant : Node}
    (member : (tag, variant) ∈ variants)
    (ok : decodeAt references limit levels variant value = .ok decoded) :
    ∃ input written, value = .object input ∧ Entries.get? discriminator input = some written
      ∧ written.toKey = tag := by
  have among : variant ∈ Entries.values variants := List.mem_map.2 ⟨(tag, variant), member, rfl⟩
  have fits := (Node.checkVariants_eq_ok built).1 tag variant member
  obtain ⟨input, written, only, rfl, tagged, allows, key, equal⟩ :=
    exists_tag_of_decodeAt (formed variant among) fits ok
  refine ⟨input, written, rfl, tagged, ?_⟩
  have numbers (m n : Number) (hm : only = .number m) (hn : written = .number n) :
      m.text = n.text := by
    subst hm hn
    exact alike n tagged variant among m allows equal
  rw [← key, toKey_eq_of_looselyEq (Node.isScalar_tagValue? allows) equal numbers]

/-- A discriminated union accepts nothing that the plain union of its variants rejects. On every
input whose tag is written alike, which only numbers can fail, both succeed together and with the
same value. -/
theorem decodeAt_discriminatedUnion_iff_union {variants : Entries Node}
    (built : Node.checkVariants discriminator [] variants = .ok ())
    (formed : ∀ variant ∈ Entries.values variants, variant.Formed) (references : References)
    (limit levels : Nat) (place place' : Option Place) (value : Value) :
    ((∃ d, decodeAt references limit levels (.discriminatedUnion place discriminator variants) value
        = .ok d) →
      ∃ d, decodeAt references limit levels (.union place' (Entries.values variants)) value = .ok d)
    ∧ (Node.TagWrittenAlike discriminator variants value → ∀ d,
      decodeAt references limit levels (.discriminatedUnion place discriminator variants) value
          = .ok d ↔
        decodeAt references limit levels (.union place' (Entries.values variants)) value
          = .ok d) := by
  have distinct : Entries.Distinct variants := (Node.checkVariants_eq_ok built).2.1
  constructor
  · rintro ⟨d, ok⟩
    obtain ⟨input, tag, variant, rfl, -, found, okVariant⟩ := decodeAt_discriminatedUnion.1 ok
    have member := Entries.mem_of_get?_eq_some found
    exact exists_decodeAt_union (List.mem_map.2 ⟨_, member, rfl⟩) okVariant
  · intro alike d
    constructor
    · intro ok
      obtain ⟨input, tag, variant, rfl, tagged, found, okVariant⟩ :=
        decodeAt_discriminatedUnion.1 ok
      obtain ⟨before, after, rfl⟩ := List.append_of_mem (Entries.mem_of_get?_eq_some found)
      refine decodeAt_union.2 ⟨Entries.values before, variant, Entries.values after,
        by simp [Entries.values], fun m hm e okM ↦ ?_, okVariant⟩
      -- An earlier variant that accepts would stand under the same key.
      obtain ⟨⟨key, _⟩, earlier, rfl⟩ := List.mem_map.1 hm
      obtain ⟨_, written, same, tagged', rfl⟩ :=
        key_of_decodeAt built formed alike (List.mem_append_left _ earlier) okM
      cases same
      obtain rfl := Option.some.inj (tagged.symm.trans tagged')
      rw [Entries.Distinct, Entries.keys_append] at distinct
      exact (List.nodup_append.1 distinct).2.2 _ (Entries.mem_keys earlier) _
        (by simp) rfl
    · intro ok
      obtain ⟨before, variant, after, split, -, okVariant⟩ := decodeAt_union.1 ok
      have among : variant ∈ Entries.values variants := by simp [split]
      obtain ⟨⟨key, _⟩, member, rfl⟩ := List.mem_map.1 among
      obtain ⟨input, written, rfl, tagged, rfl⟩ :=
        key_of_decodeAt built formed alike member okVariant
      exact decodeAt_discriminatedUnion.2 ⟨input, written, _, rfl, tagged,
        Entries.get?_eq_some_of_mem distinct member, okVariant⟩

end Choosing

/-- A struct with one scalar as its version. -/
def Node.version (value : Value) (scalar : value.isScalar = true) : Node :=
  .struct none [("v", .literal ⟨[value], by simp, by simpa using scalar⟩)] .reject

/-- Two variants, told apart by a number and a truth value. -/
def Node.versions : Entries Node :=
  [("1", .version (.number (.ofCount 1)) rfl), ("true", .version (.bool true) rfl)]

private theorem formed_versions : ∀ variant ∈ Entries.values Node.versions, variant.Formed := by
  simp [Node.versions, Node.version, Entries.values, Node.Formed, Entries.Distinct]

/-- A tag of one in integer form is dispatched as it is found by trial. -/
theorem decodeAt_versions_integer :
    Node.checkVariants "v" [] Node.versions = .ok ()
      ∧ (∀ variant ∈ Entries.values Node.versions, variant.Formed)
      ∧ Node.TagWrittenAlike "v" Node.versions (.object [("v", .number (.ofCount 1))])
      ∧ ∀ references limit levels d,
        decodeAt references limit levels (.discriminatedUnion none "v" Node.versions)
            (.object [("v", .number (.ofCount 1))]) = .ok d ↔
          decodeAt references limit levels (.union none (Entries.values Node.versions))
            (.object [("v", .number (.ofCount 1))]) = .ok d := by
  have alike : Node.TagWrittenAlike "v" Node.versions
      (.object [("v", .number (.ofCount 1))]) := by
    intro n tagged variant member m allows equal
    obtain rfl : .ofCount 1 = n := by simpa [Value.get?, Entries.get?] using tagged
    rcases List.mem_pair.1 member with rfl | rfl
    · cases allows
      rfl
    · cases allows
  exact ⟨rfl, formed_versions, alike, fun references limit levels ↦
    (decodeAt_discriminatedUnion_iff_union rfl formed_versions references limit levels none none
      _).2 alike⟩

/-- A tag of one in float form is accepted by trial, but its text `1.0` names no variant. -/
theorem decodeAt_versions_float :
    Node.checkVariants "v" [] Node.versions = .ok ()
      ∧ (∀ references limit levels d,
        decodeAt references limit levels (.discriminatedUnion none "v" Node.versions)
          (.object [("v", .number (.float Binary64.one))]) ≠ .ok d)
      ∧ ∀ references limit levels,
        decodeAt references limit (levels + 1) (.union none (Entries.values Node.versions))
          (.object [("v", .number (.float Binary64.one))])
            = .ok (.object [("v", .number (.float Binary64.one))]) := by
  refine ⟨rfl, fun references limit levels d ok ↦ ?_, fun references limit levels ↦ ?_⟩
  · obtain ⟨_, _, variant, eq, tagged, found, -⟩ := decodeAt_discriminatedUnion.1 ok
    cases eq
    cases tagged
    have key : (Value.number (.float Binary64.one)).toKey = "1.0" := by decide +kernel
    rw [key] at found
    cases found
  · refine decodeAt_union.2 ⟨[], _, _, rfl, by simp, ?_⟩
    refine decodeAt_struct.2 ⟨levels, _, [("v", .number (.float Binary64.one))], rfl, rfl,
      fun _ ↦ rfl, ?_, rfl⟩
    have tag : decodeAt references limit levels
        (.literal ⟨[.number (.ofCount 1)], by simp, rfl⟩)
        (.number (.float Binary64.one)) = .ok (.number (.float Binary64.one)) :=
      decodeAt_literal.2 ⟨by simp, ⟨_, List.mem_singleton.2 rfl, by decide +kernel⟩, rfl⟩
    exact decodeFields_cons_eq_ok_iff.2 ⟨some _, [], ⟨_, tag, rfl⟩, rfl, rfl⟩

end Schemata
