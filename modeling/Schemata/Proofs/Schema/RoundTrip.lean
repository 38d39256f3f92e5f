import Schemata.Proofs.Schema.Encoding

/-!
# Encoding undoes decoding

On schemas without transforms and unions that drop nothing and fill nothing in, encoding what was
decoded gives the input back (`encode_decode`). Decoding limits the levels of arrays, tuples,
objects and references together, encoding only the references; so the encoder never runs out of
references where the decoder did not run out of levels, and the induction carries
`levels ≤ hops`.
-/

namespace Schemata

namespace Node

/-- A node whose decoder neither drops a part of its input nor adds one: no transform, no union, no
default, and no struct that drops undeclared keys. -/
def Reversible : Node → Prop
  | .transform _ _ _ _ => False
  | .union _ _ => False
  | .optional _ _ (some _) => False
  | .struct _ _ .allow => False
  | _ => True

theorem Reversible.noTransform {node : Node} (h : node.Reversible) : node.NoTransform := by
  cases node <;> first | exact h.elim | trivial

end Node

section RoundTrip

variable {references : References} {limit : Nat}

/-- What the nodes of a schema must be for encoding to undo decoding. -/
private abbrev Good (node : Node) : Prop := node.Formed ∧ node.Reversible

/-- Encoding with `hops` references to go undoes decoding with `levels` levels left. -/
private def Undoes (references : References) (limit levels hops : Nat) (node : Node) : Prop :=
  ∀ raw decoded, Value.SymbolFree raw → Value.WellFormed raw →
    decodeAt references limit levels node raw = .ok decoded →
    (encodeAt references hops node decoded).same raw = true

private theorem undoes_array {levels hops : Nat} {place : Option Place} {item : Node}
    {c : ArrayConstraints}
    (each : ∀ l, levels = l + 1 → Undoes references limit l hops item) :
    Undoes references limit levels hops (.array place item c) := by
  intro value decoded free formed ok
  obtain ⟨l, items, out, eq, rfl, -, oks, rfl⟩ := decodeAt_array.1 ok
  rw [Value.symbolFree_array_iff] at free
  rw [Value.wellFormed_array_iff] at formed
  rw [encodeAt_array, Value.same_array_iff, List.forall₂_map_left_iff]
  have decodings := (List.forall₂_and_left _ _).2
    ⟨fun raw member ↦ And.intro (free raw member) (formed raw member), oks⟩
  apply decodings.flip.imp
  rintro d raw ⟨⟨freeRaw, formedRaw⟩, okRaw⟩
  exact each l eq raw d freeRaw formedRaw okRaw

private theorem undoes_tuple {levels hops : Nat} {place : Option Place} {elements : List Node}
    (each : ∀ l, levels = l + 1 → ∀ element ∈ elements,
      Undoes references limit l hops element) :
    Undoes references limit levels hops (.tuple place elements) := by
  intro value decoded free formed ok
  obtain ⟨l, items, out, eq, rfl, length, oks, rfl⟩ := decodeAt_tuple.1 ok
  rw [Value.symbolFree_array_iff] at free
  rw [Value.wellFormed_array_iff] at formed
  have lengthOut : out.length = elements.length := by
    have pairs := oks.length_eq
    rw [List.length_zip] at pairs
    omega
  rw [encodeAt_tuple references hops place lengthOut, Value.same_array_iff,
    List.forall₂_map_left_iff, List.forall₂_iff_zip]
  have beside := List.forall₂_iff_zip.1 (forall₂_zip_zip
    (s := fun node raw d ↦ decodeAt references limit l node raw = .ok d) length oks)
  refine ⟨beside.1, ?_⟩
  intro pair raw member
  obtain ⟨inPairs, inItems⟩ := List.of_mem_zip member
  have inElements := (List.of_mem_zip inPairs).1
  exact each l eq pair.1 inElements raw pair.2 (free raw inItems) (formed raw inItems)
    (beside.2 member)

private theorem undoes_struct {levels hops : Nat} {fields : List (String × Node)}
    {extraKeys : ExtraKeys} {place : Option Place}
    (good : Good (.struct place fields extraKeys))
    (each : ∀ l, levels = l + 1 → ∀ name node, (name, node) ∈ fields →
      Undoes references limit l hops node)
    (plain : ∀ name node, (name, node) ∈ fields → node.Reversible) :
    Undoes references limit levels hops (.struct place fields extraKeys) := by
  intro value decoded free formed ok
  obtain ⟨l, input, out, levelsEq, rfl, expected, oks, rfl⟩ := decodeAt_struct.1 ok
  have distinct : Entries.Distinct fields := good.1
  have distinctInput := (Value.wellFormed_object_iff.1 formed).1
  have distinctOut := distinct_decodeStruct oks distinct distinctInput extraKeys
  rw [encodeAt_struct, Value.same_object_iff
    (distinct_encodeStruct references _ distinct extraKeys distinctOut) distinctInput]
  intro key
  rw [get?_encodeStruct references _ distinct, get?_decodeStruct oks]
  cases declared : Entries.get? key fields with
  | some node =>
    have member := Entries.mem_of_get?_eq_some declared
    have field := get?_of_decodeFields distinct oks member
    simp only [Entries.mem_keys member, if_true]
    cases found : Entries.get? key input with
    | some raw =>
      rw [found] at field
      obtain ⟨decoded, ok, eq⟩ := field
      rw [eq, Option.map_some, ← encodeAt_eq]
      exact .some (each l levelsEq key node member raw decoded (free.of_get? found)
        (formed.of_get? found) ok)
    | none =>
      rw [found] at field
      have noDefault : node.absent? = some none ∨ node.absent? = none := by
        have reversible := plain key node member
        cases node with
        | optional _ _ default =>
          cases default with
          | none => exact .inl rfl
          | some => exact reversible.elim
        | _ => exact .inr rfl
      rcases noDefault with h | h
      · rw [← Option.some.inj (h.symm.trans field)]
        exact .none
      · exact absurd field (by simp [FieldDecoded, h])
  | none =>
    have undeclaredKey : key ∉ Entries.keys fields := Entries.get?_eq_none_iff.1 declared
    simp only [undeclaredKey, if_false]
    cases extraKeys with
    | reject =>
      have absent : key ∉ Entries.keys input := fun h ↦
        undeclaredKey (undeclared_eq_nil_iff.1 (expected rfl) key h)
      simp [Entries.get?_eq_none_iff.2 absent]
    | allow => exact good.2.elim
    | _ =>
      simp only [if_true]
      cases found : Entries.get? key input with
      | none => exact .none
      | some raw => exact .some (Value.same_refl (formed.of_get? found))

private theorem undoes_record {levels hops : Nat} {key item : Node} {place : Option Place}
    (resolved : ∀ reference, (references.resolve reference).All Node.NoTransform)
    (plain : key.All Node.NoTransform)
    (each : ∀ l, levels = l + 1 → Undoes references limit l hops item) :
    Undoes references limit levels hops (.record place key item) := by
  intro value decoded free formed ok
  obtain ⟨l, input, out, levelsEq, rfl, oks, rfl⟩ := decodeAt_record.1 ok
  have kept := keys_of_decodeEntries resolved plain oks
  have distinctInput := (Value.wellFormed_object_iff.1 formed).1
  obtain ⟨distinctOut, outEq⟩ := distinct_of_decodeEntries resolved plain distinctInput oks
  rw [outEq, encodeAt_record, Value.same_object_iff _ distinctInput]
  · have values := (List.forall₂_and_left _ _).2 ⟨fun entry member ↦
      And.intro (Value.symbolFree_object_iff.1 free entry member)
        ((Value.wellFormed_object_iff.1 formed).2 entry member), kept⟩
    refine Entries.Related.of_forall₂ (List.forall₂_map_left_iff.2 (values.flip.imp ?_))
    rintro entry raw ⟨⟨freeRaw, formedRaw⟩, eq, ok⟩
    exact ⟨eq.symm, each l levelsEq raw.2 entry.2 freeRaw formedRaw ok⟩
  · rw [Entries.Distinct, Entries.keys_map]
    exact distinctOut

private theorem undoes_discriminatedUnion {levels hops : Nat} {place : Option Place}
    {discriminator : String} {variants : List (String × Node)}
    (formed : (Node.discriminatedUnion place discriminator variants).Formed)
    (formedVariant : ∀ tag variant, (tag, variant) ∈ variants → variant.Formed)
    (each : ∀ tag variant, (tag, variant) ∈ variants →
      Undoes references limit levels hops variant) :
    Undoes references limit levels hops (.discriminatedUnion place discriminator variants) := by
  intro value decoded freeValue formedValue ok
  obtain ⟨input, tag, variant, rfl, tagged, found, okVariant⟩ := decodeAt_discriminatedUnion.1 ok
  have member := Entries.mem_of_get?_eq_some found
  have fits := (Node.checkVariants_eq_ok formed).1 tag.toKey variant member
  -- The tag is decoded to itself, so the encoder picks the variant that the decoder picked.
  have kept := get?_discriminator_of_decodeAt (formedVariant _ _ member) fits tagged okVariant
  rw [encodeAt_discriminatedUnion references hops place kept found]
  exact each _ variant member _ decoded freeValue formedValue okVariant

private theorem undoes_optional {levels hops : Nat} {place : Option Place} {inner : Node}
    (each : Undoes references limit levels hops inner) :
    Undoes references limit levels hops (.optional place inner none) := by
  intro value decoded free formed ok
  rw [encodeAt_optional]
  rcases decodeAt_optional.1 ok with ⟨rfl, rfl⟩ | ⟨-, okInner⟩
  · simp [encodeAt_null, Value.same]
  · exact each value decoded free formed okInner

private theorem undoes_lazy {levels hops : Nat} {name : String} {reference : Place}
    (enough : levels ≤ hops)
    (each : ∀ l h, levels = l + 1 → hops = h + 1 →
      Undoes references limit l h (references.resolve reference)) :
    Undoes references limit levels hops (.lazy name reference) := by
  intro value decoded free formed ok
  obtain ⟨l, rfl, okTarget⟩ := decodeAt_lazy.1 ok
  obtain ⟨h, rfl⟩ : ∃ h, hops = h + 1 := ⟨hops - 1, by omega⟩
  rw [encodeAt_lazy_succ]
  exact each l h rfl rfl value decoded free formed okTarget

/-- Encoding undoes decoding, with at least as many references to go as there were levels. -/
theorem encodeAt_decodeAt
    (resolved : ∀ reference, (references.resolve reference).All fun n ↦ n.Formed ∧ n.Reversible)
    {node : Node} (good : node.All fun n ↦ n.Formed ∧ n.Reversible) {levels hops : Nat}
    (enough : levels ≤ hops) {value decoded : Value} (free : value.SymbolFree)
    (formed : value.WellFormed) (ok : decodeAt references limit levels node value = .ok decoded) :
    (encodeAt references hops node decoded).same value = true := by
  have plain : ∀ reference, (references.resolve reference).All Node.NoTransform := fun reference ↦
    (resolved reference).imp fun _ h ↦ h.2.noTransform
  suffices undoes : Undoes references limit levels hops node from
    undoes value decoded free formed ok
  clear free formed ok
  -- On the levels left, and within them on the node: a part of a container and the target of a
  -- reference have a level less, and only the latter takes one of the encoder's references.
  induction levels using Nat.strongRecOn generalizing node hops with
  | ind levels deeper =>
    have next (l : Nat) (eq : levels = l + 1) {n : Node}
        (h : n.All fun n ↦ n.Formed ∧ n.Reversible) : Undoes references limit l hops n :=
      deeper l (by omega) h (by omega)
    induction good with
    | @intro node here below ih =>
      have good : node.All fun n ↦ n.Formed ∧ n.Reversible := .intro here below
      cases node with
      | string type =>
        intro value decoded _ formed ok
        obtain ⟨text, rfl, -, rfl⟩ := decodeAt_string.1 ok
        simpa [encodeAt_eq, encodeNode] using Value.same_refl formed
      | number c =>
        intro value decoded _ formed ok
        obtain ⟨n, rfl, -, rfl⟩ := decodeAt_number.1 ok
        simpa [encodeAt_eq, encodeNode] using Value.same_refl formed
      | integer c =>
        intro value decoded _ formed ok
        obtain ⟨n, rfl, -, -, rfl⟩ := decodeAt_integer.1 ok
        simpa [encodeAt_eq, encodeNode] using Value.same_refl formed
      | boolean =>
        intro value decoded _ formed ok
        obtain ⟨b, rfl, rfl⟩ := decodeAt_boolean.1 ok
        simpa [encodeAt_eq, encodeNode] using Value.same_refl formed
      | null =>
        intro value decoded _ formed ok
        obtain ⟨rfl, rfl⟩ := decodeAt_null.1 ok
        simpa [encodeAt_eq, encodeNode] using Value.same_refl formed
      | symbol =>
        intro value decoded free formed ok
        obtain ⟨name, rfl | rfl, rfl⟩ := decodeAt_symbol.1 ok
        · simpa [encodeAt_eq, encodeNode] using Value.same_refl formed
        · exact free.elim
      | literal type =>
        intro value decoded _ formed ok
        obtain ⟨-, -, rfl⟩ := decodeAt_literal.1 ok
        simpa [encodeAt_eq, encodeNode] using Value.same_refl formed
      | array => exact undoes_array fun l eq ↦ next l eq good.item
      | tuple => exact undoes_tuple fun l eq _ member ↦ next l eq (good.element member)
      | struct =>
        apply undoes_struct here
        · exact fun l eq _ _ member ↦ next l eq (good.field member)
        · exact fun _ _ member ↦ (good.field member).here.2
      | record =>
        apply undoes_record plain (good.key.imp fun _ h ↦ h.2.noTransform)
        exact fun l eq ↦ next l eq good.value
      | union => exact here.2.elim
      | discriminatedUnion =>
        apply undoes_discriminatedUnion here.1 fun _ _ member ↦ (good.variant member).here.1
        intro tag variant member
        exact ih variant (List.mem_map.2 ⟨(tag, variant), member, rfl⟩)
      | optional _ inner default =>
        cases default with
        | none => exact undoes_optional (ih inner (by simp [Node.children]))
        | some => exact here.2.elim
      | transform => exact here.2.elim
      | lazy _ reference =>
        apply undoes_lazy enough
        intro l h levelsEq hopsEq
        exact deeper l (by omega) (resolved reference) (by omega)

end RoundTrip

/-- On a schema of reversible nodes, cyclic or not, encoding the decoded form of a value without
symbols gives that value back, up to the order of keys, for every depth limit up to the default. -/
theorem Schema.encode_decode {schema : Schema} (formed : schema.All Node.Formed)
    (reversible : schema.All Node.Reversible) {value : Value} (free : value.SymbolFree)
    (distinctKeys : value.WellFormed) {maxDepth : Nat} (limited : maxDepth ≤ defaultMaxDepth)
    {decoded : Value} (ok : schema.decode value maxDepth = .ok decoded) :
    (schema.encode decoded).same value = true := by
  have resolved (reference : Place) :=
    (formed.resolved reference).and (reversible.resolved reference)
  exact encodeAt_decodeAt resolved (formed.root.and reversible.root) limited free distinctKeys ok

/-- A tree: a name, a note that may be absent, and subtrees. -/
def Schema.tree : Schema where
  root := .lazy "tree" [0]
  references := [([0], .struct (some [0])
    [("name", .symbol), ("note", .optional (some [1, 0]) .null none),
      ("subtrees", .array (some [2, 0]) (.lazy "tree" [0]) {})] .reject)]

/-- A tree whose fields stand in another order than the schema declares them. -/
def Value.tree : Value :=
  .object [("subtrees", .array [.object [("name", .string "leaf"), ("subtrees", .array [])]]),
    ("name", .string "root"), ("note", .null)]

private theorem all_tree {p : Node → Prop} (symbol : p .symbol) (null : p .null)
    (edge : p (.lazy "tree" [0])) (note : p (.optional (some [1, 0]) .null none))
    (subtrees : p (.array (some [2, 0]) (.lazy "tree" [0]) {}))
    (node : p (Schema.tree.references.resolve [0])) : Schema.tree.All p := by
  have all : (Schema.tree.references.resolve [0]).All p := by
    simp_all [Schema.tree, References.resolve, Node.all_iff (.struct _ _ _), Node.all_iff .symbol,
      Node.all_iff .null, Node.all_iff (.optional _ _ _), Node.all_iff (.array _ _ _),
      Node.all_iff (.lazy _ _), Node.children, Entries.values]
  refine ⟨.intro edge (by simp [Schema.tree, Node.children]), References.resolve_induction ?_ ?_⟩
  · intro entry member
    obtain rfl := List.mem_singleton.1 member
    exact all
  · exact .intro null (by simp [Node.children])

/-- The names of a tree become symbols and strings again, through two rounds of its cycle. -/
theorem Schema.encode_decode_tree :
    ∃ decoded, Schema.tree.decode Value.tree 6 = .ok decoded
      ∧ (Schema.tree.encode decoded).same Value.tree = true := by
  have formed : Schema.tree.All Node.Formed :=
    all_tree trivial trivial trivial trivial trivial
      (by decide : ["name", "note", "subtrees"].Nodup)
  have reversible : Schema.tree.All Node.Reversible :=
    all_tree trivial trivial trivial trivial trivial trivial
  have free : Value.tree.SymbolFree := by
    simp [Value.tree, Value.SymbolFree, Value.SymbolFreeEntries, Value.SymbolFreeItems]
  have distinctKeys : Value.tree.WellFormed := by
    simp [Value.tree, Value.WellFormed, Value.WellFormedEntries, Value.WellFormedItems,
      Entries.Distinct]
  obtain ⟨decoded, ok⟩ : ∃ decoded, Schema.tree.decode Value.tree 6 = .ok decoded := ⟨_, rfl⟩
  exact ⟨decoded, ok, Schema.encode_decode formed reversible free distinctKeys
    (by decide : 6 ≤ defaultMaxDepth) ok⟩

end Schemata
