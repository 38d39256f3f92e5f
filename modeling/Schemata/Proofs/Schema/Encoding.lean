import Schemata.Proofs.Schema.Decoding
import Schemata.Schema.Encode

/-!
# What encoding yields

Encoding by kind of node, in terms of encoding by the nodes below it (`encodeAt_<kind>`), and the
two facts that hold for every node: null is encoded as null, and the number of references to go is
spent by references alone.
-/

namespace Schemata

/-- The encoder behind one more reference, where one is left. -/
def encoderBehind (references : References) : (hops : Nat) → Option Encoder
  | 0 => none
  | hops + 1 => some (encodeAt references hops)

theorem encodeAt_eq (references : References) (hops : Nat) (node : Node) (value : Value) :
    encodeAt references hops node value =
      encodeNode references (encoderBehind references hops) node value := by
  cases hops <;> rfl

theorem encodeAt_null (references : References) (hops : Nat) (node : Node) :
    encodeAt references hops node .null = .null := by
  rw [encodeAt_eq, encodeNode_null]

theorem unlessNull_of_eq_null {value result : Value} (h : value = .null → result = .null) :
    unlessNull value result = result := by
  rw [unlessNull]
  split
  · next null => exact (h (Value.isNull_eq_true_iff.1 null)).symm
  · rfl

/-! ### Children -/

section Lists

variable (references : References) (next : Option Encoder)

theorem encodeElements_eq (nodes : List Node) (items : List Value) :
    encodeElements references next nodes items =
      (nodes.zip items).map fun pair ↦ encodeNode references next pair.1 pair.2 := by
  induction nodes generalizing items with
  | nil => simp [encodeElements]
  | cons node rest ih => cases items <;> simp [encodeElements, ih]

theorem encodeVariant_eq (tag : String) (variants : List (String × Node)) (value : Value) :
    encodeVariant references next tag variants value =
      (Entries.get? tag variants).map fun variant ↦ encodeNode references next variant value := by
  induction variants with
  | nil => rfl
  | cons entry rest ih =>
    obtain ⟨t, variant⟩ := entry
    by_cases h : t = tag
    · simp [encodeVariant, Entries.get?_cons, h]
    · simp [encodeVariant, Entries.get?_cons, h, ih]

theorem encodeMembers_eq (members : List Node) (value : Value) :
    encodeMembers references next members value =
      (members.find? fun m ↦ accepts references m (encodeNode references next m value)).map
        fun m ↦ encodeNode references next m value := by
  induction members with
  | nil => rfl
  | cons member rest ih =>
    by_cases h : accepts references member (encodeNode references next member value) = true
    · simp [encodeMembers, h]
    · simp [encodeMembers, h, ih]

theorem keys_encodeFields_sublist (fields : List (String × Node)) (input : Entries Value) :
    (Entries.keys (encodeFields references next fields input)).Sublist (Entries.keys fields) := by
  induction fields with
  | nil => exact .slnil
  | cons field rest ih =>
    obtain ⟨name, node⟩ := field
    rw [encodeFields]
    split
    · exact ih.cons_cons _
    · exact ih.cons _

/-- A declared field is encoded where it is present. -/
theorem get?_encodeFields {fields : List (String × Node)} (distinct : Entries.Distinct fields)
    (input : Entries Value) {name : String} {node : Node} (member : (name, node) ∈ fields) :
    Entries.get? name (encodeFields references next fields input) =
      (Entries.get? name input).map (encodeNode references next node) := by
  induction fields with
  | nil => simp at member
  | cons field rest ih =>
    obtain ⟨first, firstNode⟩ := field
    obtain ⟨fresh, distinctRest⟩ := List.nodup_cons.1 distinct
    have sub := keys_encodeFields_sublist references next rest input
    rcases List.mem_cons.1 member with eq | tail
    · cases eq
      have absent : Entries.get? name (encodeFields references next rest input) = none :=
        Entries.get?_eq_none_iff.2 fun h ↦ fresh (sub.subset h)
      cases found : Entries.get? name input <;>
        simp [encodeFields, found, Entries.get?_cons, absent]
    · have other : first ≠ name := by
        rintro rfl
        exact fresh (Entries.mem_keys tail)
      rw [← ih distinctRest tail, encodeFields]
      split <;> simp [Entries.get?_cons, other]

end Lists

/-- What a struct encodes is found under the names of its fields, and under the other names of the
input where these are kept. -/
theorem get?_encodeStruct (references : References) (next : Option Encoder)
    {fields : List (String × Node)} (distinct : Entries.Distinct fields) (extraKeys : ExtraKeys)
    (input : Entries Value) (key : String) :
    Entries.get? key (encodeFields references next fields input
        ++ if extraKeys = .include then undeclared fields input else []) =
      match Entries.get? key fields with
      | some node => (Entries.get? key input).map (encodeNode references next node)
      | none => if extraKeys = .include then Entries.get? key input else none := by
  rw [Entries.get?_append]
  have sub := keys_encodeFields_sublist references next fields input
  cases declared : Entries.get? key fields with
  | some node =>
    have member := Entries.mem_of_get?_eq_some declared
    rw [get?_encodeFields references next distinct input member]
    split
    · simp [get?_undeclared, Entries.mem_keys member]
    · simp
  | none =>
    have other : key ∉ Entries.keys fields := Entries.get?_eq_none_iff.1 declared
    rw [Entries.get?_eq_none_iff.2 fun h ↦ other (sub.subset h)]
    split
    · simp [get?_undeclared, other]
    · simp

theorem distinct_encodeStruct (references : References) (next : Option Encoder)
    {fields : List (String × Node)} (distinct : Entries.Distinct fields) (extraKeys : ExtraKeys)
    {input : Entries Value} (distinctInput : Entries.Distinct input) :
    Entries.Distinct (encodeFields references next fields input
        ++ if extraKeys = .include then undeclared fields input else []) := by
  have sub := keys_encodeFields_sublist references next fields input
  have encoded : Entries.Distinct (encodeFields references next fields input) :=
    distinct.sublist sub
  split
  · have extra : Entries.Distinct (undeclared fields input) := distinctInput.filter _
    refine encoded.append extra fun key h undeclared ↦ ?_
    rw [← Entries.contains_eq_true_iff, Entries.contains, get?_undeclared,
      if_pos (sub.subset h)] at undeclared
    simp at undeclared
  · simpa using encoded

/-! ### Nodes -/

/-- What is optional is encoded as what it holds. -/
theorem encodeNode_optional (references : References) (next : Option Encoder)
    (place : Option Place) (inner : Node) (default : Option Value) (value : Value) :
    encodeNode references next (.optional place inner default) value =
      encodeNode references next inner value :=
  unlessNull_of_eq_null fun null ↦ by rw [null, encodeNode_null]

section Kinds

variable (references : References) (hops : Nat) (place : Option Place)

theorem encodeAt_array (item : Node) (c : ArrayConstraints) (items : List Value) :
    encodeAt references hops (.array place item c) (.array items) =
      .array (items.map (encodeAt references hops item)) := by
  rw [encodeAt_eq]
  show Value.array (items.map (encodeNode references (encoderBehind references hops) item)) = _
  rw [Value.array.injEq]
  exact List.map_congr_left fun _ _ ↦ (encodeAt_eq ..).symm

theorem encodeAt_tuple {elements : List Node} {items : List Value}
    (length : items.length = elements.length) :
    encodeAt references hops (.tuple place elements) (.array items) =
      .array ((elements.zip items).map fun pair ↦ encodeAt references hops pair.1 pair.2) := by
  simp only [encodeAt_eq, encodeNode, if_pos length, encodeElements_eq]

theorem encodeAt_struct (fields : List (String × Node)) (extraKeys : ExtraKeys)
    (input : Entries Value) :
    encodeAt references hops (.struct place fields extraKeys) (.object input) =
      .object (encodeFields references (encoderBehind references hops) fields input
        ++ if extraKeys = .include then undeclared fields input else []) := by
  rw [encodeAt_eq]
  rfl

theorem encodeAt_record (key item : Node) (input : Entries Value) :
    encodeAt references hops (.record place key item) (.object input) =
      .object (input.map fun entry ↦ (entry.1, encodeAt references hops item entry.2)) := by
  simp only [encodeAt_eq]
  rfl

theorem encodeAt_union (members : List Node) (value : Value) :
    encodeAt references hops (.union place members) value =
      ((members.find? fun m ↦ accepts references m (encodeAt references hops m value)).map
        fun m ↦ encodeAt references hops m value).getD value := by
  simp only [encodeAt_eq, ← encodeMembers_eq]
  refine unlessNull_of_eq_null fun null ↦ ?_
  rw [encodeMembers_eq]
  cases found : members.find? fun m ↦ accepts references m
    (encodeNode references (encoderBehind references hops) m value) with
  | none => exact null
  | some m => rw [Option.map_some, Option.getD_some, null, encodeNode_null]

theorem encodeAt_discriminatedUnion {discriminator : String} {variants : List (String × Node)}
    {value tag : Value} {variant : Node} (tagged : value.get? discriminator = some tag)
    (found : Entries.get? tag.toKey variants = some variant) :
    encodeAt references hops (.discriminatedUnion place discriminator variants) value =
      encodeAt references hops variant value := by
  simp only [encodeAt_eq, encodeNode, tagged, encodeVariant_eq, found, Option.map_some,
    Option.getD_some]

theorem encodeAt_optional (inner : Node) (default : Option Value) (value : Value) :
    encodeAt references hops (.optional place inner default) value =
      encodeAt references hops inner value := by
  rw [encodeAt_eq, encodeAt_eq, encodeNode_optional]

theorem encodeAt_lazy_succ (name : String) (reference : Place) (value : Value) :
    encodeAt references (hops + 1) (.lazy name reference) value =
      encodeAt references hops (references.resolve reference) value := by
  refine unlessNull_of_eq_null fun null ↦ ?_
  rw [null, encodeAt_null]

end Kinds

end Schemata
