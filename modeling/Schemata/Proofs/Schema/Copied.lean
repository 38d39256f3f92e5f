import Schemata.Proofs.Schema.Encoding

/-!
# What decoding and encoding hand on

Without transforms, whatever decoding and encoding leave of a value is a copy of a part of it: they
may drop and add entries, replace null and exchange strings and symbols, and nothing else
(`Value.Copied`). So what equals the input of a decode after all this is that input, with its
entries in another order.
-/

namespace Schemata

namespace Value

/-- What the first value holds where the second holds something is what the second holds there. The
two may differ in the entries that only one of them has, in symbols standing for strings, and in
what replaces null. -/
inductive Copied : Value → Value → Prop where
  /-- Anything may replace null. -/
  | null (value : Value) : Copied value .null
  /-- Truth values are kept. -/
  | bool (b : Bool) : Copied (.bool b) (.bool b)
  /-- Numbers are kept in form and value, to the sign of zero. -/
  | number (n : Number) : Copied (.number n) (.number n)
  /-- A string and the symbol of its name may replace each other. -/
  | text {e x : Value} {s : String} (he : e.text? = some s) (hx : x.text? = some s) : Copied e x
  /-- Items are copied in place. -/
  | array {es xs : List Value}
      (items : ∀ (i : Nat) (e x : Value), es[i]? = some e → xs[i]? = some x → Copied e x) :
      Copied (.array es) (.array xs)
  /-- Values are copied under their keys. -/
  | object {es xs : Entries Value} (distinct : Entries.Distinct es)
      (values : ∀ (key : String) (e x : Value), Entries.get? key es = some e →
        Entries.get? key xs = some x → Copied e x) : Copied (.object es) (.object xs)

namespace Copied

theorem refl {value : Value} (formed : value.WellFormed) : Copied value value := by
  induction value using induction with
  | null => exact .null _
  | bool b => exact .bool b
  | number n => exact .number n
  | string s => exact .text rfl rfl
  | symbol s => exact .text rfl rfl
  | array items ih =>
    refine .array fun i e x he hx ↦ ?_
    obtain rfl := Option.some.inj (he.symm.trans hx)
    have member := List.mem_of_getElem? he
    exact ih e member (wellFormed_array_iff.1 formed e member)
  | object entries ih =>
    obtain ⟨distinct, values⟩ := wellFormed_object_iff.1 formed
    refine .object distinct fun key e x he hx ↦ ?_
    obtain rfl := Option.some.inj (he.symm.trans hx)
    have member := Entries.mem_of_get?_eq_some he
    exact ih _ member (values _ member)

theorem of_forall₂ {es xs : List Value} (h : List.Forall₂ Copied es xs) :
    Copied (.array es) (.array xs) := by
  refine .array fun i e x he hx ↦ ?_
  obtain ⟨hi, rfl⟩ := List.getElem?_eq_some_iff.1 he
  obtain ⟨hj, rfl⟩ := List.getElem?_eq_some_iff.1 hx
  exact h.get hi hj

/-- A copy that is equal to the original differs from it in the order of entries only. -/
theorem reordered_of_same {e x : Value} (copied : Copied e x) (formed : x.WellFormed)
    (equal : e.same x = true) : Reordered e x ∧ e.WellFormed := by
  induction copied with
  | null value =>
    obtain rfl := eq_null_of_same equal
    exact ⟨.refl _, trivial⟩
  | bool b => exact ⟨.refl _, trivial⟩
  | number n => exact ⟨.refl _, trivial⟩
  | @text e x s he hx =>
    obtain ⟨rfl, scalar⟩ : e = x ∧ e.WellFormed := by
      cases e <;> cases x <;> simp_all [text?, same, WellFormed]
    exact ⟨.refl _, scalar⟩
  | @array es xs _ ih =>
    have pairs := same_array_iff.1 equal
    rw [wellFormed_array_iff] at formed
    have each (i : Nat) (hi : i < es.length) (hj : i < xs.length) :
        Reordered es[i] xs[i] ∧ es[i].WellFormed :=
      ih i _ _ (by simp [hi]) (by simp [hj]) (formed _ (List.getElem_mem hj)) (pairs.get hi hj)
    refine ⟨Reordered.of_forall₂ (List.forall₂_iff_get.2 ⟨pairs.length_eq, fun i hi hj ↦
      (each i hi hj).1⟩), ?_⟩
    rw [wellFormed_array_iff]
    intro e member
    obtain ⟨i, hi, rfl⟩ := List.mem_iff_getElem.1 member
    exact (each i hi (pairs.length_eq ▸ hi)).2
  | @object es xs distinct _ ih =>
    have related := (same_object_iff distinct (wellFormed_object_iff.1 formed).1).1 equal
    have each {key : String} {e : Value} (he : Entries.get? key es = some e) :
        ∃ x, Entries.get? key xs = some x ∧ Reordered e x ∧ e.WellFormed := by
      obtain ⟨x, hx, equal⟩ := related.some_left he
      exact ⟨x, hx, ih key e x he hx (formed.of_get? hx) equal⟩
    refine ⟨Reordered.of_related fun key ↦ ?_,
      wellFormed_object_iff.2 ⟨distinct, fun entry member ↦ ?_⟩⟩
    · cases he : Entries.get? key es with
      | none => rw [related.none_left he]; exact .none
      | some e =>
        obtain ⟨x, hx, moved, -⟩ := each he
        rw [hx]
        exact .some moved
    · obtain ⟨x, -, -, formed⟩ := each (Entries.get?_eq_some_of_mem distinct member)
      exact formed

end Copied

end Value

section Schemas

variable {references : References}

private theorem copied_decodeStruct {decoder : Decoder} {fields : List (String × Node)}
    (extraKeys : ExtraKeys) (distinct : Entries.Distinct fields) {input : Entries Value}
    (formed : (Value.object input).WellFormed) {out : List (String × Value)}
    (oks : decodeFields decoder input fields = .ok out)
    (each : ∀ name node, (name, node) ∈ fields → ∀ raw d : Value, raw.WellFormed →
      decoder node raw = .ok d → d.Copied raw) :
    Value.Copied (.object (out ++ if extraKeys = .include then undeclared fields input else []))
      (.object input) := by
  have distinctInput := (Value.wellFormed_object_iff.1 formed).1
  refine .object (distinct_decodeStruct oks distinct distinctInput extraKeys)
    fun key d raw hd hraw ↦ ?_
  rw [get?_decodeStruct oks] at hd
  split at hd
  · next declared =>
    obtain ⟨⟨_, node⟩, member, rfl⟩ := List.mem_map.1 declared
    have field := get?_of_decodeFields distinct oks member
    rw [hraw, hd] at field
    obtain ⟨d', okField, same⟩ := field
    cases same
    exact each _ node member raw d (formed.of_get? hraw) okField
  · split at hd
    · obtain rfl := Option.some.inj (hd.symm.trans hraw)
      exact .refl (formed.of_get? hraw)
    · cases hd

private theorem copied_decodeRecord {limit l : Nat}
    (plain : ∀ reference, (references.resolve reference).All Node.NoTransform) {key item : Node}
    (keyPlain : key.All Node.NoTransform) {input : Entries Value}
    (formed : (Value.object input).WellFormed) {out : List (String × Value)}
    (oks : List.Forall₂ (fun entry o ↦
      (∃ k, decodeAt references limit l key (.string entry.1) = .ok k ∧ k.toKey = o.1)
        ∧ decodeAt references limit l item entry.2 = .ok o.2) input out)
    (each : ∀ raw d : Value, raw.WellFormed → decodeAt references limit l item raw = .ok d →
      d.Copied raw) :
    Value.Copied (.object (Entries.ofList out)) (.object input) := by
  have distinctInput := (Value.wellFormed_object_iff.1 formed).1
  obtain ⟨distinctOut, same⟩ := distinct_of_decodeEntries plain keyPlain distinctInput oks
  rw [same]
  refine .object distinctOut fun name d raw hd hraw ↦ ?_
  have values : Entries.Related
      (fun raw d ↦ decodeAt references limit l item raw = .ok d) input out :=
    .of_forall₂ (keys_of_decodeEntries plain keyPlain oks)
  obtain ⟨d', hd', okValue⟩ := values.some_left hraw
  obtain rfl := Option.some.inj (hd.symm.trans hd')
  exact each raw d (formed.of_get? hraw) okValue

/-- Decoding copies. -/
theorem copied_of_decodeAt {limit : Nat}
    (resolved : ∀ reference,
      (references.resolve reference).All fun n ↦ n.Formed ∧ n.NoTransform)
    {node : Node} (good : node.All fun n ↦ n.Formed ∧ n.NoTransform) {levels : Nat}
    {value decoded : Value} (formed : value.WellFormed)
    (ok : decodeAt references limit levels node value = .ok decoded) : decoded.Copied value := by
  have plain : ∀ reference, (references.resolve reference).All Node.NoTransform := fun reference ↦
    (resolved reference).imp fun _ h ↦ h.2
  induction levels using Nat.strongRecOn generalizing node value decoded with
  | ind levels deeper =>
    have next {l : Nat} (eq : levels = l + 1) {n : Node}
        (h : n.All fun n ↦ n.Formed ∧ n.NoTransform) {raw d : Value} (formedRaw : raw.WellFormed)
        (okRaw : decodeAt references limit l n raw = .ok d) : d.Copied raw :=
      deeper l (by omega) h formedRaw okRaw
    induction good generalizing value decoded with
    | @intro node here below ih =>
      have good : node.All fun n ↦ n.Formed ∧ n.NoTransform := .intro here below
      cases node with
      | string type =>
        obtain ⟨text, rfl, -, rfl⟩ := decodeAt_string.1 ok
        exact .text rfl rfl
      | number c =>
        obtain ⟨n, rfl, -, rfl⟩ := decodeAt_number.1 ok
        exact .number n
      | integer c =>
        obtain ⟨n, rfl, -, -, rfl⟩ := decodeAt_integer.1 ok
        exact .number n
      | boolean =>
        obtain ⟨b, rfl, rfl⟩ := decodeAt_boolean.1 ok
        exact .bool b
      | null =>
        obtain ⟨rfl, rfl⟩ := decodeAt_null.1 ok
        exact .null _
      | symbol =>
        obtain ⟨name, rfl | rfl, rfl⟩ := decodeAt_symbol.1 ok
        · exact .text rfl rfl
        · exact .text rfl rfl
      | literal type =>
        obtain ⟨-, -, rfl⟩ := decodeAt_literal.1 ok
        exact .refl formed
      | array place item c =>
        obtain ⟨l, items, out, eq, rfl, -, oks, rfl⟩ := decodeAt_array.1 ok
        have values := (List.forall₂_and_left _ _).2 ⟨Value.wellFormed_array_iff.1 formed, oks⟩
        exact .of_forall₂ (values.flip.imp fun d raw h ↦ next eq good.item h.1 h.2)
      | tuple place elements =>
        obtain ⟨l, items, out, eq, rfl, length, oks, rfl⟩ := decodeAt_tuple.1 ok
        refine .array fun i d raw hd hraw ↦ ?_
        obtain ⟨hi, rfl⟩ := List.getElem?_eq_some_iff.1 hd
        obtain ⟨hj, rfl⟩ := List.getElem?_eq_some_iff.1 hraw
        have okItem := oks.get (by simp; omega) hi
        simp only [List.get_eq_getElem, List.getElem_zip] at okItem
        exact next eq (good.element (List.getElem_mem _))
          (Value.wellFormed_array_iff.1 formed _ (List.getElem_mem hj)) okItem
      | struct place fields extraKeys =>
        obtain ⟨l, input, out, eq, rfl, -, oks, rfl⟩ := decodeAt_struct.1 ok
        exact copied_decodeStruct extraKeys here.1 formed oks
          fun name n member raw d formedRaw okRaw ↦ next eq (good.field member) formedRaw okRaw
      | record place key item =>
        obtain ⟨l, input, out, eq, rfl, oks, rfl⟩ := decodeAt_record.1 ok
        exact copied_decodeRecord plain (good.key.imp fun _ h ↦ h.2) formed oks
          fun raw d formedRaw okRaw ↦ next eq good.value formedRaw okRaw
      | union place members =>
        obtain ⟨before, member, after, rfl, -, okMember⟩ := decodeAt_union.1 ok
        exact ih member (by simp [Node.children]) formed okMember
      | discriminatedUnion place discriminator variants =>
        obtain ⟨input, tag, variant, rfl, -, found, okVariant⟩ := decodeAt_discriminatedUnion.1 ok
        have member := Entries.mem_of_get?_eq_some found
        exact ih variant (List.mem_map.2 ⟨(tag.toKey, variant), member, rfl⟩) formed okVariant
      | optional place inner default =>
        rcases decodeAt_optional.1 ok with ⟨rfl, -⟩ | ⟨-, okInner⟩
        · exact .null _
        · exact ih inner (by simp [Node.children]) formed okInner
      | transform => exact here.2.elim
      | lazy name reference =>
        obtain ⟨l, rfl, okTarget⟩ := decodeAt_lazy.1 ok
        exact deeper l (Nat.lt_succ_self l) (resolved reference) formed okTarget

private theorem copied_encodeStruct {hops : Nat} {place : Option Place}
    {fields : List (String × Node)} (extraKeys : ExtraKeys) (distinct : Entries.Distinct fields)
    {input : Entries Value} {value : Value} (copied : (Value.object input).Copied value)
    (each : ∀ name node, (name, node) ∈ fields → ∀ d x : Value, d.Copied x →
      (encodeAt references hops node d).Copied x) :
    (encodeAt references hops (.struct place fields extraKeys) (.object input)).Copied value := by
  rw [encodeAt_struct]
  cases copied with
  | null => exact .null _
  | text he => cases he
  | object distinctInput copies =>
    refine .object (distinct_encodeStruct references _ distinct extraKeys distinctInput)
      fun key e x he hx ↦ ?_
    rw [get?_encodeStruct references _ distinct] at he
    split at he
    · next node declared =>
      obtain ⟨d, hd, rfl⟩ := Option.map_eq_some_iff.1 he
      rw [← encodeAt_eq]
      exact each key node (Entries.mem_of_get?_eq_some declared) d x (copies key d x hd hx)
    · split at he
      · exact copies key e x he hx
      · cases he

private theorem copied_encodeRecord {hops : Nat} {place : Option Place} {key item : Node}
    {input : Entries Value} {value : Value} (copied : (Value.object input).Copied value)
    (each : ∀ d x : Value, d.Copied x → (encodeAt references hops item d).Copied x) :
    (encodeAt references hops (.record place key item) (.object input)).Copied value := by
  rw [encodeAt_record]
  cases copied with
  | null => exact .null _
  | text he => cases he
  | object distinct copies =>
    refine .object (by rwa [Entries.Distinct, Entries.keys_map]) fun name e x he hx ↦ ?_
    rw [Entries.get?_map] at he
    obtain ⟨d, hd, rfl⟩ := Option.map_eq_some_iff.1 he
    exact each d x (copies name d x hd hx)

private theorem copied_encodeArray {hops : Nat} {place : Option Place} {item : Node}
    (c : ArrayConstraints) {items : List Value} {value : Value}
    (copied : (Value.array items).Copied value)
    (each : ∀ d x : Value, d.Copied x → (encodeAt references hops item d).Copied x) :
    (encodeAt references hops (.array place item c) (.array items)).Copied value := by
  rw [encodeAt_array]
  cases copied with
  | null => exact .null _
  | text he => cases he
  | array copies =>
    refine .array fun i e x he hx ↦ ?_
    rw [List.getElem?_map] at he
    obtain ⟨d, hd, rfl⟩ := Option.map_eq_some_iff.1 he
    exact each d x (copies i d x hd hx)

private theorem copied_encodeTuple {hops : Nat} {place : Option Place} {elements : List Node}
    {items : List Value} {value : Value} (copied : (Value.array items).Copied value)
    (each : ∀ node ∈ elements, ∀ d x : Value, d.Copied x →
      (encodeAt references hops node d).Copied x) :
    (encodeAt references hops (.tuple place elements) (.array items)).Copied value := by
  by_cases length : items.length = elements.length
  · rw [encodeAt_tuple references hops place length]
    cases copied with
    | null => exact .null _
    | text he => cases he
    | array copies =>
      refine .array fun i e x he hx ↦ ?_
      rw [List.getElem?_map] at he
      obtain ⟨⟨node, d⟩, hd, rfl⟩ := Option.map_eq_some_iff.1 he
      obtain ⟨hn, hd⟩ := List.getElem?_zip_eq_some.1 hd
      exact each node (List.mem_of_getElem? hn) d x (copies i d x hd hx)
  · simpa [encodeAt_eq, encodeNode, length] using copied

/-- A copy that is encoded remains a copy. -/
theorem copied_encodeAt
    (resolved : ∀ reference,
      (references.resolve reference).All fun n ↦ n.Formed ∧ n.NoTransform)
    {node : Node} (good : node.All fun n ↦ n.Formed ∧ n.NoTransform) {hops : Nat}
    {decoded value : Value} (copied : decoded.Copied value) :
    (encodeAt references hops node decoded).Copied value := by
  induction hops using Nat.strongRecOn generalizing node decoded value with
  | ind hops fewer =>
    induction good generalizing decoded value with
    | @intro node here below ih =>
      cases node with
      | string | number | integer | boolean | null | literal =>
        simpa [encodeAt_eq, encodeNode] using copied
      | symbol =>
        rw [encodeAt_eq]
        cases decoded with
        | symbol name =>
          cases copied with
          | null => exact .null _
          | text he hx => exact .text he hx
        | _ => simpa [encodeNode] using copied
      | array place item c =>
        cases decoded with
        | array items =>
          exact copied_encodeArray c copied fun d x ↦ ih item (by simp [Node.children])
        | _ => simpa [encodeAt_eq, encodeNode] using copied
      | tuple place elements =>
        cases decoded with
        | array items => exact copied_encodeTuple copied fun n member d x ↦ ih n member
        | _ => simpa [encodeAt_eq, encodeNode] using copied
      | struct place fields extraKeys =>
        cases decoded with
        | object input =>
          exact copied_encodeStruct extraKeys here.1 copied fun name n member d x ↦
            ih n (List.mem_map.2 ⟨(name, n), member, rfl⟩)
        | _ => simpa [encodeAt_eq, encodeNode] using copied
      | record place key item =>
        cases decoded with
        | object input =>
          exact copied_encodeRecord copied fun d x ↦ ih item (by simp [Node.children])
        | _ => simpa [encodeAt_eq, encodeNode] using copied
      | union place members =>
        rw [encodeAt_union]
        cases found : members.find? fun m ↦
            accepts references m (encodeAt references hops m decoded) with
        | none => simpa using copied
        | some m => exact ih m (List.mem_of_find?_eq_some found) copied
      | discriminatedUnion place discriminator variants =>
        cases tagged : decoded.get? discriminator with
        | none => simpa [encodeAt_eq, encodeNode, tagged] using copied
        | some tag =>
          cases found : Entries.get? tag.toKey variants with
          | none => simpa [encodeAt_eq, encodeNode, tagged, encodeVariant_eq, found] using copied
          | some variant =>
            rw [encodeAt_discriminatedUnion references hops place tagged found]
            have member := Entries.mem_of_get?_eq_some found
            exact ih variant (List.mem_map.2 ⟨(tag.toKey, variant), member, rfl⟩) copied
      | optional place inner default =>
        rw [encodeAt_optional]
        exact ih inner (by simp [Node.children]) copied
      | transform => exact here.2.elim
      | lazy name reference =>
        cases hops with
        | zero =>
          rw [encodeAt, encodeNode, unlessNull_of_eq_null fun null ↦ null]
          exact copied
        | succ hops =>
          rw [encodeAt_lazy_succ]
          exact fewer hops (Nat.lt_succ_self hops) (resolved reference) copied

end Schemas

end Schemata
