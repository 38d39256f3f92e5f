import Schemata.Proofs.Schema.Decoding

/-!
# The order of keys

Decoding does not see the order in which an object's entries stand: inputs that are reordered at any
depth decode alike, and to values that are again reordered (`decodeAt_reordered`). Only transforms
are excluded, which may do anything with the value they are given.
-/

namespace Schemata

namespace Value

/-- A scalar has no entries to move. -/
theorem Reordered.eq_of_isScalar {x y : Value} (h : Reordered x y) (scalar : x.isScalar = true) :
    x = y := by
  cases h with
  | refl => rfl
  | array | object => simp [isScalar] at scalar

private theorem hasRepeats_mono {xs ys : List Value} (moved : List.Forall₂ Reordered xs ys)
    (fx : ∀ x ∈ xs, x.WellFormed) (fy : ∀ y ∈ ys, y.WellFormed) (h : hasRepeats xs = true) :
    hasRepeats ys = true := by
  induction moved with
  | nil => exact h
  | @cons x y xs ys head tail ih =>
    rw [hasRepeats, Bool.or_eq_true, List.any_eq_true] at h ⊢
    obtain ⟨formedX, formedXs⟩ := List.forall_mem_cons.1 fx
    obtain ⟨formedY, formedYs⟩ := List.forall_mem_cons.1 fy
    rcases h with ⟨later, member, equal⟩ | h
    · left
      obtain ⟨i, hi, rfl⟩ := List.mem_iff_getElem.1 member
      have hj : i < ys.length := tail.length_eq ▸ hi
      refine ⟨ys[i], List.getElem_mem hj, ?_⟩
      exact looselyEq_congr (tail.get hi hj) head (formedXs _ (List.getElem_mem hi))
        (formedYs _ (List.getElem_mem hj)) formedX formedY equal
    · exact .inr (ih formedXs formedYs h)

/-- Whether items repeat does not depend on the order of their entries. -/
theorem hasRepeats_congr {xs ys : List Value} (moved : List.Forall₂ Reordered xs ys)
    (fx : ∀ x ∈ xs, x.WellFormed) (fy : ∀ y ∈ ys, y.WellFormed) :
    hasRepeats xs = hasRepeats ys := by
  rw [Bool.eq_iff_iff]
  exact ⟨hasRepeats_mono moved fx fy,
    hasRepeats_mono (moved.flip.imp fun _ _ h ↦ h.symm) fy fx⟩

end Value

theorem ArrayConstraints.violation?_congr (c : ArrayConstraints) {xs ys : List Value}
    (moved : List.Forall₂ Value.Reordered xs ys) (fx : ∀ x ∈ xs, x.WellFormed)
    (fy : ∀ y ∈ ys, y.WellFormed) : c.violation? xs = c.violation? ys := by
  simp only [violation?, moved.length_eq, Value.hasRepeats_congr moved fx fy]

/-- A literal accepts scalars only. -/
theorem isScalar_of_decodeAt_literal {references : References} {limit levels : Nat}
    {type : LiteralType} {value decoded : Value}
    (ok : decodeAt references limit levels (.literal type) value = .ok decoded) :
    value.isScalar = true := by
  obtain ⟨-, ⟨allowed, member, equal⟩, -⟩ := decodeAt_literal.1 ok
  have scalar := List.all_eq_true.1 type.scalars allowed member
  cases allowed <;> cases value <;> simp_all [Value.isScalar, Value.looselyEq, Value.same]

/-- The tag that a variant accepts is a scalar. -/
theorem isScalar_tag_of_decodeAt {references : References} {limit levels : Nat}
    {discriminator tag : String} {variant : Node} (formed : variant.Formed)
    (fits : Node.variantFault? discriminator tag variant = none) {input : Entries Value}
    {written decoded : Value} (tagged : Entries.get? discriminator input = some written)
    (ok : decodeAt references limit levels variant (.object input) = .ok decoded) :
    written.isScalar = true := by
  obtain ⟨place, fields, extraKeys, type, only, rfl, declared, -, -⟩ :=
    Node.variantFault?_eq_none fits
  obtain ⟨l, _, out, rfl, eq, -, oks, -⟩ := decodeAt_struct.1 ok
  cases eq
  have field := get?_of_decodeFields formed oks (Entries.mem_of_get?_eq_some declared)
  rw [tagged] at field
  obtain ⟨d, okField, -⟩ := field
  exact isScalar_of_decodeAt_literal okField

section Reordered

open Value (Reordered)

variable {references : References} {limit : Nat}

/-- A decoder takes reordered values to reordered values. -/
private def KeepsOrder (decode : Value → Except DecodeError Value) : Prop :=
  ∀ x y d, Reordered x y → x.WellFormed → y.WellFormed → decode x = .ok d →
    ∃ d', decode y = .ok d' ∧ Reordered d d'

private theorem forall₂_wellFormed {xs ys : List Value} (moved : List.Forall₂ Reordered xs ys)
    (fx : ∀ x ∈ xs, x.WellFormed) (fy : ∀ y ∈ ys, y.WellFormed) :
    List.Forall₂ (fun x y ↦ Reordered x y ∧ x.WellFormed ∧ y.WellFormed) xs ys := by
  induction moved with
  | nil => exact .nil
  | cons head _ ih =>
    obtain ⟨formedX, formedXs⟩ := List.forall_mem_cons.1 fx
    obtain ⟨formedY, formedYs⟩ := List.forall_mem_cons.1 fy
    exact .cons ⟨head, formedX, formedY⟩ (ih formedXs formedYs)

theorem FieldDecoded.unique {decoder : Decoder} {node : Node} {raw out out' : Option Value}
    (h : FieldDecoded decoder node raw out) (h' : FieldDecoded decoder node raw out') :
    out = out' := by
  cases raw with
  | none => exact Option.some.inj (h.symm.trans h')
  | some raw =>
    obtain ⟨d, ok, rfl⟩ := h
    obtain ⟨d', ok', rfl⟩ := h'
    rw [Except.ok.inj (ok.symm.trans ok')]

private theorem FieldDecoded.reordered {decoder : Decoder} {node : Node} {x y out : Option Value}
    (keeps : KeepsOrder (decoder node)) (moved : Option.Rel Reordered x y)
    (fx : ∀ raw, x = some raw → raw.WellFormed) (fy : ∀ raw, y = some raw → raw.WellFormed)
    (h : FieldDecoded decoder node x out) :
    ∃ out', FieldDecoded decoder node y out' ∧ Option.Rel Reordered out out' := by
  cases moved with
  | none =>
    refine ⟨out, h, ?_⟩
    cases out with
    | none => exact .none
    | some d => exact .some (.refl d)
  | @some x y moved =>
    obtain ⟨d, ok, rfl⟩ := h
    obtain ⟨d', ok', movedOut⟩ := keeps x y d moved (fx x rfl) (fy y rfl) ok
    exact ⟨some d', ⟨d', ok', rfl⟩, .some movedOut⟩

private theorem reordered_struct {levels : Nat} {fields : List (String × Node)}
    {extraKeys : ExtraKeys} (distinct : Entries.Distinct fields)
    (keeps : ∀ name node, (name, node) ∈ fields →
      KeepsOrder (decodeAt references limit levels node))
    {xs ys : Entries Value} (moved : Entries.Related Reordered xs ys)
    (fx : (Value.object xs).WellFormed) (fy : (Value.object ys).WellFormed)
    {out : List (String × Value)}
    (oks : decodeFields (decodeAt references limit levels) xs fields = .ok out) :
    ∃ out', decodeFields (decodeAt references limit levels) ys fields = .ok out'
      ∧ Entries.Related Reordered
        (out ++ if extraKeys = .include then undeclared fields xs else [])
        (out' ++ if extraKeys = .include then undeclared fields ys else []) := by
  have each (name : String) (node : Node) (member : (name, node) ∈ fields) :
      ∃ o, FieldDecoded (decodeAt references limit levels) node (Entries.get? name ys) o
        ∧ Option.Rel Reordered (Entries.get? name out) o :=
    (get?_of_decodeFields distinct oks member).reordered (keeps name node member) (moved name)
      (fun _ found ↦ fx.of_get? found) (fun _ found ↦ fy.of_get? found)
  obtain ⟨out', oks'⟩ := decodeFields_ok_of_forall fun name node member ↦
    (each name node member).imp fun _ h ↦ h.1
  refine ⟨out', oks', fun key ↦ ?_⟩
  rw [get?_decodeStruct oks, get?_decodeStruct oks']
  split
  · next declared =>
    obtain ⟨⟨_, node⟩, member, rfl⟩ := List.mem_map.1 declared
    obtain ⟨o, field, movedOut⟩ := each _ node member
    rwa [← field.unique (get?_of_decodeFields distinct oks' member)]
  · split
    · exact moved key
    · exact .none

private theorem reordered_record {levels : Nat} {key item : Node}
    (resolved : ∀ reference, (references.resolve reference).All Node.NoTransform)
    (plain : key.All Node.NoTransform) (keeps : KeepsOrder (decodeAt references limit levels item))
    {xs ys : Entries Value} (moved : Entries.Related Reordered xs ys)
    (fx : (Value.object xs).WellFormed) (fy : (Value.object ys).WellFormed)
    {out : List (String × Value)}
    (oks : List.Forall₂ (fun entry o ↦
      (∃ k, decodeAt references limit levels key (.string entry.1) = .ok k ∧ k.toKey = o.1)
        ∧ decodeAt references limit levels item entry.2 = .ok o.2) xs out) :
    ∃ out', List.Forall₂ (fun entry o ↦
        (∃ k, decodeAt references limit levels key (.string entry.1) = .ok k ∧ k.toKey = o.1)
          ∧ decodeAt references limit levels item entry.2 = .ok o.2) ys out'
      ∧ Entries.Related Reordered (Entries.ofList out) (Entries.ofList out') := by
  have distinctX := (Value.wellFormed_object_iff.1 fx).1
  have distinctY := (Value.wellFormed_object_iff.1 fy).1
  have each (entry : String × Value) (member : entry ∈ ys) : ∃ o : String × Value,
      (∃ k, decodeAt references limit levels key (.string entry.1) = .ok k ∧ k.toKey = o.1)
        ∧ decodeAt references limit levels item entry.2 = .ok o.2 := by
    have found := Entries.get?_eq_some_of_mem distinctY member
    obtain ⟨x, foundX, movedX⟩ := moved.flip.some_left found
    obtain ⟨o, -, ⟨k, okKey, -⟩, ok⟩ :=
      forall₂_exists_of_mem oks (Entries.mem_of_get?_eq_some foundX)
    obtain ⟨d, ok', -⟩ := keeps x entry.2 o.2 movedX (fx.of_get? foundX) (fy.of_get? found) ok
    exact ⟨(k.toKey, d), ⟨k, okKey, rfl⟩, ok'⟩
  obtain ⟨out', oks'⟩ := exists_forall₂ each
  refine ⟨out', oks', ?_⟩
  rw [(distinct_of_decodeEntries resolved plain distinctX oks).2,
    (distinct_of_decodeEntries resolved plain distinctY oks').2]
  have values {input o : Entries Value} (oks : List.Forall₂ (fun entry o ↦ entry.1 = o.1
      ∧ decodeAt references limit levels item entry.2 = .ok o.2) input o) :
      Entries.Related (fun raw d ↦ decodeAt references limit levels item raw = .ok d) input o :=
    .of_forall₂ oks
  have valuesX := values (keys_of_decodeEntries resolved plain oks)
  have valuesY := values (keys_of_decodeEntries resolved plain oks')
  intro name
  cases foundX : Entries.get? name xs with
  | none =>
    rw [valuesX.none_left foundX, valuesY.none_left (moved.none_left foundX)]
    exact .none
  | some x =>
    obtain ⟨y, foundY, movedXY⟩ := moved.some_left foundX
    obtain ⟨d, foundD, ok⟩ := valuesX.some_left foundX
    obtain ⟨d', foundD', ok'⟩ := valuesY.some_left foundY
    obtain ⟨e, okE, movedOut⟩ := keeps x y d movedXY (fx.of_get? foundX) (fy.of_get? foundY) ok
    rw [foundD, foundD', ← Except.ok.inj (okE.symm.trans ok')]
    exact .some movedOut

/-- The decoder of a container whose parts keep the order, one level deeper each, keeps it. -/
private theorem keepsOrder_array {levels : Nat} {place : Option Place} {item : Node}
    {c : ArrayConstraints}
    (keeps : ∀ l, levels = l + 1 → KeepsOrder (decodeAt references limit l item)) :
    KeepsOrder (decodeAt references limit levels (.array place item c)) := by
  intro x y d moved fx fy ok
  obtain ⟨l, xs, out, eq, rfl, sound, oks, rfl⟩ := decodeAt_array.1 ok
  cases y with
  | array ys =>
    rw [Value.wellFormed_array_iff] at fx fy
    have pairs := forall₂_wellFormed moved.forall₂ fx fy
    obtain ⟨out', oks', movedOut⟩ := exists_forall₂_of_forall₂ pairs oks
      fun a b c moved ok ↦ keeps l eq a b c moved.1 moved.2.1 moved.2.2 ok
    have sound' : c.violation? ys = none := by
      rw [← c.violation?_congr moved.forall₂ fx fy]
      exact sound
    exact ⟨_, decodeAt_array.2 ⟨l, ys, out', eq, rfl, sound', oks', rfl⟩, .of_forall₂ movedOut⟩
  | _ => cases moved

private theorem keepsOrder_tuple {levels : Nat} {place : Option Place} {elements : List Node}
    (keeps : ∀ l, levels = l + 1 → ∀ element ∈ elements,
      KeepsOrder (decodeAt references limit l element)) :
    KeepsOrder (decodeAt references limit levels (.tuple place elements)) := by
  intro x y d moved fx fy ok
  obtain ⟨l, xs, out, eq, rfl, length, oks, rfl⟩ := decodeAt_tuple.1 ok
  cases y with
  | array ys =>
    rw [Value.wellFormed_array_iff] at fx fy
    have pairs := forall₂_zip_left elements (forall₂_wellFormed moved.forall₂ fx fy)
    obtain ⟨out', oks', movedOut⟩ := exists_forall₂_of_forall₂ pairs oks
      fun a b c ⟨same, member, moved⟩ ok ↦
        same ▸ keeps l eq a.1 member a.2 b.2 c moved.1 moved.2.1 moved.2.2 ok
    have length' : ys.length = elements.length := by
      rw [← moved.forall₂.length_eq]
      exact length
    exact ⟨_, decodeAt_tuple.2 ⟨l, ys, out', eq, rfl, length', oks', rfl⟩, .of_forall₂ movedOut⟩
  | _ => cases moved

private theorem keepsOrder_struct {levels : Nat} {place : Option Place}
    {fields : List (String × Node)} {extraKeys : ExtraKeys} (distinct : Entries.Distinct fields)
    (keeps : ∀ l, levels = l + 1 → ∀ name node, (name, node) ∈ fields →
      KeepsOrder (decodeAt references limit l node)) :
    KeepsOrder (decodeAt references limit levels (.struct place fields extraKeys)) := by
  intro x y d moved fx fy ok
  obtain ⟨l, xs, out, eq, rfl, expected, oks, rfl⟩ := decodeAt_struct.1 ok
  cases y with
  | object ys =>
    obtain ⟨out', oks', movedOut⟩ := reordered_struct distinct (keeps l eq) moved.related fx fy oks
    have expected' (reject : extraKeys = .reject) : undeclared fields ys = [] := by
      rw [undeclared_eq_nil_iff]
      intro key member
      have inInput := (moved.related.mem_keys_iff key).2 member
      exact undeclared_eq_nil_iff.1 (expected reject) key inInput
    exact ⟨_, decodeAt_struct.2 ⟨l, ys, out', eq, rfl, expected', oks', rfl⟩,
      .of_related movedOut⟩
  | _ => cases moved

private theorem keepsOrder_record {levels : Nat} {place : Option Place} {key item : Node}
    (resolved : ∀ reference, (references.resolve reference).All Node.NoTransform)
    (plain : key.All Node.NoTransform)
    (keeps : ∀ l, levels = l + 1 → KeepsOrder (decodeAt references limit l item)) :
    KeepsOrder (decodeAt references limit levels (.record place key item)) := by
  intro x y d moved fx fy ok
  obtain ⟨l, xs, out, eq, rfl, oks, rfl⟩ := decodeAt_record.1 ok
  cases y with
  | object ys =>
    obtain ⟨out', oks', movedOut⟩ :=
      reordered_record resolved plain (keeps l eq) moved.related fx fy oks
    exact ⟨_, decodeAt_record.2 ⟨l, ys, out', eq, rfl, oks', rfl⟩, .of_related movedOut⟩
  | _ => cases moved

private theorem keepsOrder_union {levels : Nat} {place : Option Place} {members : List Node}
    (keeps : ∀ m ∈ members, KeepsOrder (decodeAt references limit levels m)) :
    KeepsOrder (decodeAt references limit levels (.union place members)) := by
  intro x y d moved fx fy ok
  obtain ⟨before, member, after, rfl, rejected, okMember⟩ := decodeAt_union.1 ok
  obtain ⟨d', ok', movedOut⟩ := keeps member (by simp) x y d moved fx fy okMember
  -- An earlier member that took the one order would have taken the other.
  have rejected' (m : Node) (hm : m ∈ before) (e : Value) :
      decodeAt references limit levels m y ≠ .ok e := by
    intro okM
    obtain ⟨e', okM', -⟩ := keeps m (by simp [hm]) y x e moved.symm fy fx okM
    exact rejected m hm e' okM'
  exact ⟨d', decodeAt_union.2 ⟨before, member, after, rfl, rejected', ok'⟩, movedOut⟩

private theorem keepsOrder_discriminatedUnion {levels : Nat} {place : Option Place}
    {discriminator : String} {variants : List (String × Node)}
    (formed : (Node.discriminatedUnion place discriminator variants).Formed)
    (formedVariant : ∀ tag variant, (tag, variant) ∈ variants → variant.Formed)
    (keeps : ∀ tag variant, (tag, variant) ∈ variants →
      KeepsOrder (decodeAt references limit levels variant)) :
    KeepsOrder (decodeAt references limit levels
      (.discriminatedUnion place discriminator variants)) := by
  intro x y d moved fx fy ok
  obtain ⟨input, tag, variant, rfl, tagged, found, okVariant⟩ := decodeAt_discriminatedUnion.1 ok
  have member := Entries.mem_of_get?_eq_some found
  have fits := (Node.checkVariants_eq_ok formed).1 tag.toKey variant member
  have scalar := isScalar_tag_of_decodeAt (formedVariant _ _ member) fits tagged okVariant
  cases y with
  | object ys =>
    obtain ⟨tag', tagged', movedTag⟩ := moved.related.some_left tagged
    obtain rfl := movedTag.eq_of_isScalar scalar
    obtain ⟨d', ok', movedOut⟩ := keeps _ variant member _ _ d moved fx fy okVariant
    exact ⟨d', decodeAt_discriminatedUnion.2 ⟨ys, tag, variant, rfl, tagged', found, ok'⟩,
      movedOut⟩
  | _ => cases moved

private theorem keepsOrder_optional {levels : Nat} {place : Option Place} {inner : Node}
    {default : Option Value} (keeps : KeepsOrder (decodeAt references limit levels inner)) :
    KeepsOrder (decodeAt references limit levels (.optional place inner default)) := by
  intro x y d moved fx fy ok
  have nulls : x = .null ↔ y = .null := by
    rw [← Value.isNull_eq_true_iff, ← Value.isNull_eq_true_iff, moved.isNull_eq]
  rcases decodeAt_optional.1 ok with ⟨null, rfl⟩ | ⟨notNull, okInner⟩
  · exact ⟨_, decodeAt_optional.2 (.inl ⟨nulls.1 null, rfl⟩), .refl _⟩
  · obtain ⟨d', ok', movedOut⟩ := keeps x y d moved fx fy okInner
    exact ⟨d', decodeAt_optional.2 (.inr ⟨notNull ∘ nulls.2, ok'⟩), movedOut⟩

private theorem keepsOrder_lazy {levels : Nat} {name : String} {reference : Place}
    (keeps : ∀ l, levels = l + 1 →
      KeepsOrder (decodeAt references limit l (references.resolve reference))) :
    KeepsOrder (decodeAt references limit levels (.lazy name reference)) := by
  intro x y d moved fx fy ok
  obtain ⟨l, eq, okTarget⟩ := decodeAt_lazy.1 ok
  obtain ⟨d', ok', movedOut⟩ := keeps l eq x y d moved fx fy okTarget
  exact ⟨d', decodeAt_lazy.2 ⟨l, eq, ok'⟩, movedOut⟩

/-- Inputs that differ in the order of entries decode to values that differ in that order. -/
theorem decodeAt_reordered
    (resolved : ∀ reference,
      (references.resolve reference).All fun n ↦ n.Formed ∧ n.NoTransform)
    {node : Node} (good : node.All fun n ↦ n.Formed ∧ n.NoTransform) {levels : Nat}
    {x y d : Value} (moved : Reordered x y) (fx : x.WellFormed) (fy : y.WellFormed)
    (ok : decodeAt references limit levels node x = .ok d) :
    ∃ d', decodeAt references limit levels node y = .ok d' ∧ Reordered d d' := by
  have plain : ∀ reference, (references.resolve reference).All Node.NoTransform := fun reference ↦
    (resolved reference).imp fun _ h ↦ h.2
  suffices keeps : KeepsOrder (decodeAt references limit levels node) from
    keeps x y d moved fx fy ok
  clear moved fx fy ok
  -- On the levels left, which a part of a container and the target of a reference have fewer of,
  -- and within them on the node.
  induction levels using Nat.strongRecOn generalizing node with
  | ind levels deeper =>
    have next (l : Nat) (eq : levels = l + 1) {n : Node}
        (h : n.All fun n ↦ n.Formed ∧ n.NoTransform) :
        KeepsOrder (decodeAt references limit l n) := deeper l (by omega) h
    induction good with
    | @intro node here below ih =>
      have good : node.All fun n ↦ n.Formed ∧ n.NoTransform := .intro here below
      cases node with
      | string | number | integer | boolean | null | symbol | literal =>
        intro x y d moved _ _ ok
        cases moved with
        | refl => exact ⟨d, ok, .refl d⟩
        | array | object =>
          first
          | simpa [Value.isScalar] using isScalar_of_decodeAt_literal ok
          | simp [decodeAt_string, decodeAt_number, decodeAt_integer, decodeAt_boolean,
              decodeAt_null, decodeAt_symbol] at ok
      | array => exact keepsOrder_array fun l eq ↦ next l eq good.item
      | tuple => exact keepsOrder_tuple fun l eq _ member ↦ next l eq (good.element member)
      | struct => exact keepsOrder_struct here.1 fun l eq _ _ member ↦ next l eq (good.field member)
      | record =>
        apply keepsOrder_record plain (good.key.imp fun _ h ↦ h.2)
        exact fun l eq ↦ next l eq good.value
      | union => exact keepsOrder_union ih
      | discriminatedUnion =>
        apply keepsOrder_discriminatedUnion here.1 fun _ _ member ↦ (good.variant member).here.1
        intro tag variant member
        exact ih variant (List.mem_map.2 ⟨(tag, variant), member, rfl⟩)
      | optional _ inner => exact keepsOrder_optional (ih inner (by simp [Node.children]))
      | transform => exact here.2.elim
      | lazy _ reference => exact keepsOrder_lazy fun l eq ↦ next l eq (resolved reference)

end Reordered

end Schemata
