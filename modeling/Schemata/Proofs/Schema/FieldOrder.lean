import Schemata.Proofs.Schema.KeyOrder

/-!
# The order of decoded fields

The order of keys that an input comes with decides nothing. What a struct decodes to has its fields
in order of declaration and its other keys after them, at any depth (`LaidOut`), and so do inputs
that differ in the order of their keys (`Schema.decode_reordered`).
-/

namespace Schemata

/-- Entries in another order are found under the same keys. -/
theorem Entries.get?_eq_of_perm {α : Type} {xs ys : Entries α} (distinct : Distinct xs)
    (perm : xs.Perm ys) (key : String) : get? key xs = get? key ys := by
  have keysPerm : (keys xs).Perm (keys ys) := perm.map Prod.fst
  have distinctY : Distinct ys := keysPerm.nodup_iff.1 distinct
  cases found : get? key xs with
  | none =>
    rw [get?_eq_none_iff] at found
    exact (get?_eq_none_iff.2 fun among ↦ found (keysPerm.mem_iff.2 among)).symm
  | some a =>
    have member := perm.mem_iff.1 (mem_of_get?_eq_some found)
    exact (get?_eq_some_of_mem distinctY member).symm

/-- An object differs at most in the order of entries from one whose entries are permuted after
values have been reordered. -/
theorem Value.Reordered.of_perm {xs zs ys : Entries Value} (perm : zs.Perm ys)
    (distinct : Entries.Distinct zs)
    (moved : List.Forall₂ (fun x z ↦ x.1 = z.1 ∧ Reordered x.2 z.2) xs zs) :
    Reordered (.object xs) (.object ys) := by
  refine .of_related fun key ↦ ?_
  rw [← Entries.get?_eq_of_perm distinct perm key]
  exact Entries.Related.of_forall₂ moved key

/-- How a decoded value is arranged, along the way it was decoded: in the result of each struct, the
declared fields come first, in order of declaration. -/
inductive LaidOut (references : References) (limit : Nat) :
    Nat → Node → Value → Value → Prop where
  /-- A node without parts arranges nothing. -/
  | plain {levels : Nat} {node : Node} {value decoded : Value} (childless : node.children = [])
    (ok : decodeAt references limit levels node value = .ok decoded) (notLazy : node.kind ≠ .lazy)
    (notStruct : node.kind ≠ .struct) : LaidOut references limit levels node value decoded
  /-- Items keep their places. -/
  | array {levels : Nat} {place : Option Place} {item : Node} {c : ArrayConstraints}
    {items out : List Value} (length : out.length = items.length)
    (each : ∀ (i : Nat) (value decoded : Value), items[i]? = some value → out[i]? = some decoded →
      LaidOut references limit levels item value decoded) :
    LaidOut references limit (levels + 1) (.array place item c) (.array items) (.array out)
  /-- Elements keep their places. -/
  | tuple {levels : Nat} {place : Option Place} {elements : List Node} {items out : List Value}
    (length : out.length = items.length)
    (each : ∀ (i : Nat) (node : Node) (value decoded : Value), elements[i]? = some node →
      items[i]? = some value → out[i]? = some decoded →
      LaidOut references limit levels node value decoded) :
    LaidOut references limit (levels + 1) (.tuple place elements) (.array items) (.array out)
  /-- The fields of a struct come in order of declaration, before all other keys. -/
  | struct {levels : Nat} {place : Option Place} {fields : List (String × Node)}
    {extraKeys : ExtraKeys} {input declared extra : Entries Value}
    (inOrder : (Entries.keys declared).Sublist (Entries.keys fields))
    (after : ∀ key ∈ Entries.keys extra, key ∉ Entries.keys fields)
    (each : ∀ (name : String) (node : Node) (value decoded : Value), (name, node) ∈ fields →
      Entries.get? name input = some value → Entries.get? name declared = some decoded →
      LaidOut references limit levels node value decoded) :
    LaidOut references limit (levels + 1) (.struct place fields extraKeys) (.object input)
      (.object (declared ++ extra))
  /-- The entries of a record keep their keys. -/
  | record {levels : Nat} {place : Option Place} {key item : Node} {input out : Entries Value}
    (keys : Entries.keys out = Entries.keys input)
    (each : ∀ (k : String) (value decoded : Value), Entries.get? k input = some value →
      Entries.get? k out = some decoded → LaidOut references limit levels item value decoded) :
    LaidOut references limit (levels + 1) (.record place key item) (.object input) (.object out)
  /-- A union has the arrangement of the first member that accepts. -/
  | union {levels : Nat} {place : Option Place} {before after : List Node} {member : Node}
    {value decoded : Value}
    (rejected : ∀ m ∈ before, ∀ d, decodeAt references limit levels m value ≠ .ok d)
    (ok : decodeAt references limit levels member value = .ok decoded)
    (laid : LaidOut references limit levels member value decoded) :
    LaidOut references limit levels (.union place (before ++ member :: after)) value decoded
  /-- A discriminated union has the arrangement of the variant under the tag. -/
  | variant {levels : Nat} {place : Option Place} {discriminator : String}
    {variants : List (String × Node)} {input : Entries Value} {tag decoded : Value} {variant : Node}
    (tagged : Entries.get? discriminator input = some tag)
    (found : Entries.get? tag.toKey variants = some variant)
    (laid : LaidOut references limit levels variant (.object input) decoded) :
    LaidOut references limit levels (.discriminatedUnion place discriminator variants)
      (.object input) decoded
  /-- A default stands as it was declared. -/
  | default {levels : Nat} {place : Option Place} {inner : Node} {default : Option Value} :
    LaidOut references limit levels (.optional place inner default) .null (default.getD .null)
  /-- What is present of an optional node has the arrangement of the inner one. -/
  | optional {levels : Nat} {place : Option Place} {inner : Node} {default : Option Value}
    {value decoded : Value} (notNull : value ≠ .null)
    (laid : LaidOut references limit levels inner value decoded) :
    LaidOut references limit levels (.optional place inner default) value decoded
  /-- A reference has the arrangement of what it stands for. -/
  | lazy {levels : Nat} {name : String} {reference : Place} {value decoded : Value}
    (laid : LaidOut references limit levels (references.resolve reference) value decoded) :
    LaidOut references limit (levels + 1) (.lazy name reference) value decoded

section Layout

variable {references : References} {limit levels : Nat} {place : Option Place}

private theorem laidOut_array {item : Node} {c : ArrayConstraints} {items out : List Value}
    (oks : List.Forall₂ (fun i o ↦ decodeAt references limit levels item i = .ok o) items out)
    (laid : ∀ value decoded, value ∈ items →
      decodeAt references limit levels item value = .ok decoded →
        LaidOut references limit levels item value decoded) :
    LaidOut references limit (levels + 1) (.array place item c) (.array items) (.array out) := by
  refine .array oks.length_eq.symm fun i value decoded found foundOut ↦ ?_
  obtain ⟨hi, rfl⟩ := List.getElem?_eq_some_iff.1 found
  obtain ⟨ho, rfl⟩ := List.getElem?_eq_some_iff.1 foundOut
  exact laid _ _ (List.getElem_mem hi) (oks.get hi ho)

private theorem laidOut_tuple {elements : List Node} {items out : List Value}
    (length : items.length = elements.length)
    (oks : List.Forall₂ (fun pair o ↦ decodeAt references limit levels pair.1 pair.2 = .ok o)
      (elements.zip items) out)
    (laid : ∀ node value decoded, node ∈ elements → value ∈ items →
      decodeAt references limit levels node value = .ok decoded →
        LaidOut references limit levels node value decoded) :
    LaidOut references limit (levels + 1) (.tuple place elements) (.array items) (.array out) := by
  have lengthOut : out.length = items.length := by
    simpa [length] using oks.length_eq.symm
  refine .tuple lengthOut fun i node value decoded foundNode found foundOut ↦ ?_
  obtain ⟨hn, rfl⟩ := List.getElem?_eq_some_iff.1 foundNode
  obtain ⟨hi, rfl⟩ := List.getElem?_eq_some_iff.1 found
  obtain ⟨ho, rfl⟩ := List.getElem?_eq_some_iff.1 foundOut
  have inside : i < (elements.zip items).length := by
    rw [List.length_zip]
    exact Nat.lt_min.2 ⟨hn, hi⟩
  have ok := oks.get inside ho
  rw [List.get_eq_getElem, List.getElem_zip] at ok
  exact laid _ _ _ (List.getElem_mem hn) (List.getElem_mem hi) ok

private theorem laidOut_struct {fields : List (String × Node)} {extraKeys : ExtraKeys}
    {input : Entries Value} {out : List (String × Value)} (distinct : Entries.Distinct fields)
    (oks : decodeFields (decodeAt references limit levels) input fields = .ok out)
    (laid : ∀ name node value decoded, (name, node) ∈ fields →
      Entries.get? name input = some value →
      decodeAt references limit levels node value = .ok decoded →
        LaidOut references limit levels node value decoded) :
    LaidOut references limit (levels + 1) (.struct place fields extraKeys) (.object input)
      (.object (out ++ if extraKeys = .include then undeclared fields input else [])) := by
  refine .struct (keys_sublist_of_decodeFields oks) ?_ ?_
  · intro key among declared
    split at among
    · rw [← Entries.contains_eq_true_iff, Entries.contains, get?_undeclared, if_pos declared]
        at among
      cases among
    · cases among
  · intro name node value decoded member found foundOut
    have field := get?_of_decodeFields distinct oks member
    rw [found, foundOut] at field
    obtain ⟨_, ok, same⟩ := field
    cases same
    exact laid name node value decoded member found ok

private theorem laidOut_record {key item : Node}
    (resolved : ∀ reference, (references.resolve reference).All Node.NoTransform)
    (plain : key.All Node.NoTransform) {input : Entries Value} {out : List (String × Value)}
    (distinct : Entries.Distinct input)
    (oks : List.Forall₂ (fun entry o ↦
      (∃ k, decodeAt references limit levels key (.string entry.1) = .ok k ∧ k.toKey = o.1)
        ∧ decodeAt references limit levels item entry.2 = .ok o.2) input out)
    (laid : ∀ k value decoded, Entries.get? k input = some value →
      decodeAt references limit levels item value = .ok decoded →
        LaidOut references limit levels item value decoded) :
    LaidOut references limit (levels + 1) (.record place key item) (.object input)
      (.object (Entries.ofList out)) := by
  let r (value decoded : Value) : Prop :=
    decodeAt references limit levels item value = .ok decoded
  have kept : List.Forall₂ (fun entry o ↦ entry.1 = o.1 ∧ r entry.2 o.2) input out :=
    keys_of_decodeEntries resolved plain oks
  have related : Entries.Related r input out := .of_forall₂ kept
  rw [(distinct_of_decodeEntries resolved plain distinct oks).2]
  refine .record (Entries.keys_eq_of_forall₂ kept).symm fun k value decoded found foundOut ↦ ?_
  obtain ⟨d, foundDecoded, ok⟩ := related.some_left found
  rw [foundOut] at foundDecoded
  cases foundDecoded
  exact laid k value decoded found ok

/-- What decoding yields is laid out so. -/
theorem laidOut_of_decodeAt
    (resolved : ∀ reference,
      (references.resolve reference).All fun n ↦ n.Formed ∧ n.NoTransform)
    {node : Node} (good : node.All fun n ↦ n.Formed ∧ n.NoTransform) {value decoded : Value}
    (formed : value.WellFormed) (ok : decodeAt references limit levels node value = .ok decoded) :
    LaidOut references limit levels node value decoded := by
  have plain : ∀ reference, (references.resolve reference).All Node.NoTransform := fun reference ↦
    (resolved reference).imp fun _ h ↦ h.2
  induction levels using Nat.strongRecOn generalizing node value decoded with
  | ind levels deeper =>
    induction good generalizing value decoded with
    | @intro node here below ih =>
      have good : node.All fun n ↦ n.Formed ∧ n.NoTransform := .intro here below
      cases node with
      | string | number | integer | boolean | null | symbol | literal =>
        exact .plain rfl ok nofun nofun
      | array _ item c =>
        obtain ⟨l, items, out, rfl, rfl, -, oks, rfl⟩ := decodeAt_array.1 ok
        exact laidOut_array oks fun v d among okItem ↦
          deeper l (Nat.lt_succ_self l) good.item (Value.wellFormed_array_iff.1 formed v among)
            okItem
      | tuple _ elements =>
        obtain ⟨l, items, out, rfl, rfl, length, oks, rfl⟩ := decodeAt_tuple.1 ok
        exact laidOut_tuple length oks fun n v d member among okElement ↦
          deeper l (Nat.lt_succ_self l) (good.element member)
            (Value.wellFormed_array_iff.1 formed v among) okElement
      | struct _ fields extraKeys =>
        obtain ⟨l, input, out, rfl, rfl, -, oks, rfl⟩ := decodeAt_struct.1 ok
        exact laidOut_struct here.1 oks fun name n v d member found okField ↦
          deeper l (Nat.lt_succ_self l) (good.field member) (formed.of_get? found) okField
      | record _ key item =>
        obtain ⟨l, input, out, rfl, rfl, oks, rfl⟩ := decodeAt_record.1 ok
        exact laidOut_record plain (good.key.imp fun _ h ↦ h.2)
          (Value.wellFormed_object_iff.1 formed).1 oks fun k v d found okItem ↦
            deeper l (Nat.lt_succ_self l) good.value (formed.of_get? found) okItem
      | union _ members =>
        obtain ⟨before, member, after, rfl, rejected, okMember⟩ := decodeAt_union.1 ok
        exact .union rejected okMember (ih member (by simp [Node.children]) formed okMember)
      | discriminatedUnion _ discriminator variants =>
        obtain ⟨input, tag, variant, rfl, tagged, found, okVariant⟩ :=
          decodeAt_discriminatedUnion.1 ok
        have member := Entries.mem_of_get?_eq_some found
        exact .variant tagged found (ih variant (List.mem_map.2 ⟨_, member, rfl⟩) formed okVariant)
      | optional _ inner default =>
        rcases decodeAt_optional.1 ok with ⟨rfl, rfl⟩ | ⟨notNull, okInner⟩
        · exact .default
        · exact .optional notNull (ih inner (by simp [Node.children]) formed okInner)
      | transform => exact here.2.elim
      | lazy _ reference =>
        obtain ⟨l, rfl, okTarget⟩ := decodeAt_lazy.1 ok
        exact .lazy (deeper l (Nat.lt_succ_self l) (resolved reference) formed okTarget)

end Layout

/-- The order of keys in its input does not decide whether a schema without transforms decodes it:
inputs that differ in that order decode alike, to values that differ in that order at most, and both
have the fields of structs in order of declaration. -/
theorem Schema.decode_reordered {schema : Schema} (formed : schema.All Node.Formed)
    (plain : schema.All Node.NoTransform) {x y : Value} (moved : Value.Reordered x y)
    (formedX : x.WellFormed) (formedY : y.WellFormed) (maxDepth : Nat) :
    ((∃ decoded, schema.decode x maxDepth = .ok decoded) ↔
        ∃ decoded, schema.decode y maxDepth = .ok decoded)
      ∧ ∀ dx dy, schema.decode x maxDepth = .ok dx → schema.decode y maxDepth = .ok dy →
        Value.Reordered dx dy
          ∧ LaidOut schema.references maxDepth maxDepth schema.root x dx
          ∧ LaidOut schema.references maxDepth maxDepth schema.root y dy := by
  have good := formed.root.and plain.root
  have resolved (reference : Place) := (formed.resolved reference).and (plain.resolved reference)
  refine ⟨⟨fun ⟨d, ok⟩ ↦ ?_, fun ⟨d, ok⟩ ↦ ?_⟩, fun dx dy okX okY ↦ ⟨?_, ?_, ?_⟩⟩
  · obtain ⟨d', ok', -⟩ := decodeAt_reordered resolved good moved formedX formedY ok
    exact ⟨d', ok'⟩
  · obtain ⟨d', ok', -⟩ := decodeAt_reordered resolved good moved.symm formedY formedX ok
    exact ⟨d', ok'⟩
  · obtain ⟨d', ok', movedOut⟩ := decodeAt_reordered resolved good moved formedX formedY okX
    have same : d' = dy := Except.ok.inj (ok'.symm.trans okY)
    exact same ▸ movedOut
  · exact laidOut_of_decodeAt resolved good formedX okX
  · exact laidOut_of_decodeAt resolved good formedY okY

/-- A letter with its pages; whatever else is known of a page is kept. -/
def Schema.letter : Schema where
  root := .struct none
    [("sender", .symbol),
      ("pages", .array none (.struct none [("signed", .boolean)] .include) {})] .allow
  references := []

/-- A letter of one page with a note. -/
def Value.letter : Value :=
  .object [("sender", .string "me"),
    ("pages", .array [.object [("signed", .bool true), ("note", .null)]])]

/-- The same letter with the entries of letter and page in the opposite order. -/
def Value.turnedLetter : Value :=
  .object [("pages", .array [.object [("note", .null),
    ("signed", .bool true)]]), ("sender", .string "me")]

/-- The letter and the turned one decode to values of one arrangement. -/
theorem Schema.decode_reordered_letter :
    ∃ dx dy, Schema.letter.decode .letter 3 = .ok dx ∧ Schema.letter.decode .turnedLetter 3 = .ok dy
      ∧ Value.Reordered dx dy
      ∧ LaidOut Schema.letter.references 3 3 Schema.letter.root .letter dx
      ∧ LaidOut Schema.letter.references 3 3 Schema.letter.root .turnedLetter dy := by
  have formed : Schema.letter.All Node.Formed := .of_published trivial (by decide) (by decide)
  have plain : Schema.letter.All Node.NoTransform := .of_published trivial (by decide) (by decide)
  have page : Value.Reordered
      (.object [("signed", .bool true), ("note", .null)])
      (.object [("note", .null), ("signed", .bool true)]) :=
    .of_perm (.swap _ _ _) (by decide) (List.forall₂_same.2 fun _ _ ↦ ⟨rfl, .refl _⟩)
  have moved : Value.Reordered .letter .turnedLetter :=
    .of_perm (.swap _ _ _) (by decide)
      (.cons ⟨rfl, .refl _⟩ (.cons ⟨rfl, .of_forall₂ (.cons page .nil)⟩ .nil))
  have formedX : Value.letter.WellFormed := by
    simp [Value.letter, Value.WellFormed, Value.WellFormedEntries, Value.WellFormedItems,
      Entries.Distinct]
  have formedY : Value.turnedLetter.WellFormed := by
    simp [Value.turnedLetter, Value.WellFormed, Value.WellFormedEntries, Value.WellFormedItems,
      Entries.Distinct]
  obtain ⟨dx, okX⟩ : ∃ dx, Schema.letter.decode .letter 3 = .ok dx := ⟨_, rfl⟩
  obtain ⟨dy, okY⟩ : ∃ dy, Schema.letter.decode .turnedLetter 3 = .ok dy := ⟨_, rfl⟩
  exact ⟨dx, dy, okX, okY,
    (decode_reordered formed plain moved formedX formedY 3).2 dx dy okX okY⟩

end Schemata
