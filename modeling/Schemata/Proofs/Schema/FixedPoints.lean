import Schemata.Proofs.Schema.Defaults
import Schemata.Proofs.Schema.Encoding

/-!
# Decoded values are fixed points

What a schema without transforms, unions and the demand for different items decodes, it decodes
again to the same value, and so it does with its external form, unless levels run out on the way
(`Blueprint.decode_decoded`). The second decode may have fewer levels or more, and the encoder may
stop at any reference.

The induction is on the levels of the second decode and says nothing about those of the first: a
default was decoded in a tree of its own and may stand at any depth.
-/

namespace Schemata

/-- A node that decodes what it decoded: no transform, no union, no array whose items must be
different. -/
def Node.Settled : Node → Prop
  | .transform _ _ _ _ => False
  | .union _ _ => False
  | .array _ _ c => c.unique = false
  | _ => True

theorem Node.Settled.noTransform {node : Node} (h : node.Settled) : node.NoTransform := by
  cases node <;> first | exact h.elim | trivial

/-- The result is the value, unless levels ran out. -/
def Yields {α : Type} (result : Except DecodeError α) (a : α) : Prop :=
  result = .ok a ∨ ∃ error limit, result = .error error ∧ error.cause = .depthExceeded limit

namespace Yields

variable {α β : Type} {result : Except DecodeError α} {a : α}

theorem located (yields : Yields result a) (segment : PathSegment) :
    Yields (Schemata.located segment result) a := by
  rcases yields with rfl | ⟨error, limit, rfl, cause⟩
  · exact .inl rfl
  · exact .inr ⟨.within segment error, limit, rfl, by rwa [DecodeError.cause_within]⟩

theorem bind {next : α → Except DecodeError β} {b : β} (yields : Yields result a)
    (later : Yields (next a) b) : Yields (result >>= next) b := by
  rcases yields with rfl | ⟨error, limit, rfl, cause⟩
  · exact later
  · exact .inr ⟨error, limit, rfl, cause⟩

theorem map {f : α → β} (yields : Yields result a) : Yields (result.map f) (f a) := by
  rcases yields with rfl | ⟨error, limit, rfl, cause⟩
  · exact .inl rfl
  · exact .inr ⟨error, limit, rfl, cause⟩

/-- One level deeper, where a level is left. -/
theorem deeper {references : References} {limit levels : Nat} {run : Decoder → Except DecodeError α}
    (yields : ∀ l, levels = l + 1 → Yields (run (decodeAt references limit l)) a) :
    Yields (Schemata.deeper limit (decoderBelow references limit levels) run) a := by
  cases levels with
  | zero => exact .inr ⟨.depthExceeded limit, limit, rfl, rfl⟩
  | succ l => exact yields l rfl

end Yields

/-! ### Sequences of children -/

section Sequences

variable {decoder : Decoder}

theorem yields_decodeItems {decode : Value → Except DecodeError Value} {items out : List Value}
    (each : List.Forall₂ (fun item o ↦ Yields (decode item) o) items out) (i : Nat) :
    Yields (decodeItems decode i items) out := by
  induction each generalizing i with
  | nil => exact .inl rfl
  | cons head _ ih => exact (head.located _).bind ((ih (i + 1)).bind (.inl rfl))

theorem yields_decodeElements {nodes : List Node} {items out : List Value}
    (length : items.length = nodes.length)
    (each : List.Forall₂ (fun pair o ↦ Yields (decoder pair.1 pair.2) o) (nodes.zip items) out)
    (i : Nat) : Yields (decodeElements decoder i nodes items) out := by
  induction nodes generalizing items out i with
  | nil =>
    cases each
    exact .inl rfl
  | cons node rest ih =>
    cases items with
    | nil => cases length
    | cons item items =>
      cases each with
      | cons head tail =>
        exact (head.located _).bind ((ih (Nat.succ.inj length) tail (i + 1)).bind (.inl rfl))

theorem yields_decodeEntries {key value : Node} {entries out : List (String × Value)}
    (each : List.Forall₂ (fun entry o ↦
      (∃ k, Yields (decoder key (.string entry.1)) k ∧ k.toKey = o.1)
        ∧ Yields (decoder value entry.2) o.2) entries out) :
    Yields (decodeEntries decoder key value entries) out := by
  induction each with
  | nil => exact .inl rfl
  | cons head _ ih =>
    obtain ⟨⟨k, yieldsKey, toKey⟩, yieldsValue⟩ := head
    refine (yieldsKey.located _).bind ((yieldsValue.located _).bind (ih.bind (.inl ?_)))
    rw [toKey]
    rfl

/-- A field is decoded to what it was decoded to, unless levels run out. -/
def FieldYields (decoder : Decoder) (node : Node) (raw out : Option Value) : Prop :=
  match raw with
  | some raw => ∃ decoded, Yields (decoder node raw) decoded ∧ out = some decoded
  | none => node.absent? = some out

/-- Fields are decoded to what other input was decoded to, if each of them is. -/
theorem yields_decodeFields {decoder' : Decoder} {input input' : Entries Value}
    {fields : List (String × Node)} {out : List (String × Value)}
    (oks : decodeFields decoder' input fields = .ok out)
    (each : ∀ name node, (name, node) ∈ fields → ∀ decoded,
      FieldDecoded decoder' node (Entries.get? name input) decoded →
      FieldYields decoder node (Entries.get? name input') decoded) :
    Yields (decodeFields decoder input' fields) out := by
  induction fields generalizing out with
  | nil => exact .inl oks
  | cons field rest ih =>
    obtain ⟨name, node⟩ := field
    obtain ⟨decoded, later, here, oksRest, rfl⟩ := decodeFields_cons_eq_ok_iff.1 oks
    have yieldsRest := ih oksRest fun n m member ↦ each n m (List.mem_cons_of_mem _ member)
    have field := each name node List.mem_cons_self decoded here
    cases found : Entries.get? name input' with
    | some raw =>
      rw [found] at field
      obtain ⟨d, yields, rfl⟩ := field
      simp only [decodeFields, found]
      exact (yields.located _).bind (yieldsRest.bind (.inl rfl))
    | none =>
      rw [found] at field
      rw [decodeFields_absent found, show node.absent? = some decoded from field]
      cases decoded with
      | none => exact yieldsRest
      | some default => exact yieldsRest.map

end Sequences

/-! ### Decoded values and their external form -/

/-- A decoded value as it is, or its external form by an encoder with some references to go. -/
def form (references : References) : (hops : Option Nat) → Encoder
  | none, _, value => value
  | some hops, node, value => encodeAt references hops node value

section Forms

variable (references : References) (hops : Option Nat) (place : Option Place)

theorem form_null (node : Node) : form references hops node .null = .null := by
  cases hops with
  | none => rfl
  | some hops => exact encodeAt_null references hops node

theorem form_array (item : Node) (c : ArrayConstraints) (items : List Value) :
    form references hops (.array place item c) (.array items) =
      .array (items.map (form references hops item)) := by
  cases hops with
  | none => exact congrArg Value.array (List.map_id' items).symm
  | some hops => exact encodeAt_array references hops place item c items

theorem form_tuple {elements : List Node} {items : List Value}
    (length : items.length = elements.length) :
    form references hops (.tuple place elements) (.array items) =
      .array ((elements.zip items).map fun pair ↦ form references hops pair.1 pair.2) := by
  cases hops with
  | none => exact congrArg Value.array (List.map_snd_zip (Nat.le_of_eq length)).symm
  | some hops => exact encodeAt_tuple references hops place length

theorem form_record (key item : Node) (input : Entries Value) :
    form references hops (.record place key item) (.object input) =
      .object (input.map fun entry ↦ (entry.1, form references hops item entry.2)) := by
  cases hops with
  | none => exact congrArg Value.object (List.map_id' input).symm
  | some hops => exact encodeAt_record references hops place key item input

theorem form_optional (inner : Node) (default : Option Value) (value : Value) :
    form references hops (.optional place inner default) value =
      form references hops inner value := by
  cases hops with
  | none => rfl
  | some hops => exact encodeAt_optional references hops place inner default value

theorem form_discriminatedUnion {discriminator : String} {variants : List (String × Node)}
    {value tag : Value} {variant : Node} (tagged : value.get? discriminator = some tag)
    (found : Entries.get? tag.toKey variants = some variant) :
    form references hops (.discriminatedUnion place discriminator variants) value =
      form references hops variant value := by
  cases hops with
  | none => rfl
  | some hops => exact encodeAt_discriminatedUnion references hops place tagged found

/-- With no reference to go, a reference leaves the value as it is. -/
theorem encodeAt_lazy_zero (name : String) (reference : Place) (value : Value) :
    encodeAt references 0 (.lazy name reference) value = value :=
  unlessNull_of_eq_null id

/-- Through a reference goes the form by the target, with one reference less to go or none. -/
theorem exists_form_lazy (name : String) (reference : Place) (value : Value) :
    ∃ hops', form references hops (.lazy name reference) value =
      form references hops' (references.resolve reference) value := by
  match hops with
  | none => exact ⟨none, rfl⟩
  | some 0 => exact ⟨none, encodeAt_lazy_zero references name reference value⟩
  | some (hops + 1) => exact ⟨some hops, encodeAt_lazy_succ references hops name reference value⟩

theorem undeclared_undeclared {α : Type} (fields : Entries α) (input : Entries Value) :
    undeclared fields (undeclared fields input) = undeclared fields input := by
  simp [undeclared]

/-- Declared entries in front do not change what is undeclared. -/
theorem undeclared_append {α : Type} {fields : Entries α} {input : Entries Value}
    (declared : ∀ key ∈ Entries.keys input, key ∈ Entries.keys fields) (more : Entries Value) :
    undeclared fields (input ++ more) = undeclared fields more := by
  have none := undeclared_eq_nil_iff.2 declared
  rw [undeclared] at none ⊢
  rw [List.filter_append, none, List.nil_append, undeclared]

/-- The form of what a struct decoded: each field in its own form, the other keys unchanged. -/
theorem form_struct {fields : List (String × Node)} (distinct : Entries.Distinct fields)
    {extraKeys : ExtraKeys} {input : Entries Value}
    (kept : undeclared fields input = [] ∨ extraKeys = .include) :
    ∃ input', form references hops (.struct place fields extraKeys) (.object input) = .object input'
      ∧ undeclared fields input' = undeclared fields input
      ∧ ∀ name node, (name, node) ∈ fields → Entries.get? name input' =
          (Entries.get? name input).map (form references hops node) := by
  cases hops with
  | none => exact ⟨input, rfl, rfl, fun _ _ _ ↦ Option.map_id'.symm⟩
  | some hops =>
    have sub := keys_encodeFields_sublist references (encoderBehind references hops) fields input
    refine ⟨_, encodeAt_struct references hops place fields extraKeys input, ?_, ?_⟩
    · rw [undeclared_append fun key member ↦ sub.subset member]
      split
      · exact undeclared_undeclared fields input
      · next policy => exact (kept.resolve_right policy).symm
    · intro name node member
      rw [get?_encodeStruct references _ distinct,
        Entries.get?_eq_some_of_mem distinct member]
      exact congrArg (Entries.get? name input).map (funext fun v ↦ (encodeAt_eq ..).symm)

/-- The external form of a value other than null is not null. -/
theorem encodeAt_ne_null {references : References}
    (resolved : ∀ r, (references.resolve r).All Node.NoTransform) {node : Node}
    (plain : node.All Node.NoTransform) (hops : Nat) {value : Value} (notNull : value ≠ .null) :
    encodeAt references hops node value ≠ .null := by
  induction hops using Nat.strongRecOn generalizing node with
  | ind hops fewer =>
    induction plain with
    | @intro node here below ih =>
      cases node with
      | transform => exact here.elim
      | string | number | integer | boolean | null | literal =>
        simpa [encodeAt_eq, encodeNode] using notNull
      | symbol | array | struct | record =>
        cases value <;> first | exact absurd rfl notNull | simp [encodeAt_eq, encodeNode]
      | tuple _ elements =>
        cases value with
        | array items =>
          simp only [encodeAt_eq, encodeNode]
          split <;> simp
        | null => exact absurd rfl notNull
        | _ => simp [encodeAt_eq, encodeNode]
      | union _ members =>
        rw [encodeAt_union]
        cases found : members.find? fun m ↦
            accepts references m (encodeAt references hops m value) with
        | none => simpa using notNull
        | some member => exact ih member (List.mem_of_find?_eq_some found)
      | discriminatedUnion _ discriminator variants =>
        cases tagged : value.get? discriminator with
        | none => simpa [encodeAt_eq, encodeNode, tagged] using notNull
        | some tag =>
          cases found : Entries.get? tag.toKey variants with
          | none => simpa [encodeAt_eq, encodeNode, tagged, encodeVariant_eq, found] using notNull
          | some variant =>
            rw [encodeAt_discriminatedUnion references hops _ tagged found]
            exact ih variant (List.mem_map_of_mem (Entries.mem_of_get?_eq_some found))
      | optional _ inner =>
        rw [encodeAt_optional]
        exact ih inner (List.mem_singleton.2 rfl)
      | lazy name reference =>
        cases hops with
        | zero => rwa [encodeAt_lazy_zero]
        | succ hops =>
          rw [encodeAt_lazy_succ]
          exact fewer hops (Nat.lt_succ_self hops) (resolved reference)

theorem form_ne_null {references : References}
    (resolved : ∀ r, (references.resolve r).All Node.NoTransform) {node : Node}
    (plain : node.All Node.NoTransform) (hops : Option Nat) {value : Value}
    (notNull : value ≠ .null) : form references hops node value ≠ .null := by
  cases hops with
  | none => exact notNull
  | some hops => exact encodeAt_ne_null resolved plain hops notNull

end Forms

/-- Only null is decoded to null. -/
theorem ne_null_of_decodeAt {references : References}
    (resolved : ∀ r, (references.resolve r).All Node.NoTransform) {limit levels : Nat} {node : Node}
    (plain : node.All Node.NoTransform) {value decoded : Value} (notNull : value ≠ .null)
    (ok : decodeAt references limit levels node value = .ok decoded) : decoded ≠ .null := by
  induction levels using Nat.strongRecOn generalizing node with
  | ind levels fewer =>
    induction plain with
    | @intro node here below ih =>
      cases node with
      | transform => exact here.elim
      | string =>
        obtain ⟨_, -, -, rfl⟩ := decodeAt_string.1 ok
        simp
      | number =>
        obtain ⟨_, -, -, rfl⟩ := decodeAt_number.1 ok
        simp
      | integer =>
        obtain ⟨_, -, -, -, rfl⟩ := decodeAt_integer.1 ok
        simp
      | boolean =>
        obtain ⟨_, -, rfl⟩ := decodeAt_boolean.1 ok
        simp
      | null => exact absurd (decodeAt_null.1 ok).1 notNull
      | symbol =>
        obtain ⟨_, -, rfl⟩ := decodeAt_symbol.1 ok
        simp
      | literal =>
        obtain ⟨-, -, rfl⟩ := decodeAt_literal.1 ok
        exact notNull
      | array =>
        obtain ⟨_, _, _, -, -, -, -, rfl⟩ := decodeAt_array.1 ok
        simp
      | tuple =>
        obtain ⟨_, _, _, -, -, -, -, rfl⟩ := decodeAt_tuple.1 ok
        simp
      | struct =>
        obtain ⟨_, _, _, -, -, -, -, rfl⟩ := decodeAt_struct.1 ok
        simp
      | record =>
        obtain ⟨_, _, _, -, -, -, rfl⟩ := decodeAt_record.1 ok
        simp
      | union =>
        obtain ⟨_, member, _, rfl, -, okMember⟩ := decodeAt_union.1 ok
        exact ih member (by simp [Node.children]) okMember
      | discriminatedUnion =>
        obtain ⟨_, _, variant, -, -, found, okVariant⟩ := decodeAt_discriminatedUnion.1 ok
        exact ih variant (List.mem_map_of_mem (Entries.mem_of_get?_eq_some found)) okVariant
      | optional _ inner =>
        rcases decodeAt_optional.1 ok with ⟨null, -⟩ | ⟨-, okInner⟩
        · exact absurd null notNull
        · exact ih inner (List.mem_singleton.2 rfl) okInner
      | lazy _ reference =>
        obtain ⟨l, rfl, okTarget⟩ := decodeAt_lazy.1 ok
        exact fewer l (Nat.lt_succ_self l) (resolved reference) okTarget

/-- A text that decodes as a key decodes to the same key again, unless levels run out. -/
theorem yields_decodeAt_text {references : References} {limit limit' levels levels' : Nat}
    {node : Node}
    (resolved : ∀ r, (references.resolve r).All Node.Settled) (settled : node.All Node.Settled)
    {text : String} {decoded : Value}
    (ok : decodeAt references limit levels node (.string text) = .ok decoded) :
    Yields (decodeAt references limit' levels' node (.string text)) decoded := by
  induction levels' using Nat.strongRecOn generalizing levels node with
  | ind levels' fewer =>
    induction settled generalizing levels with
    | @intro node here below ih =>
      cases node with
      | transform | union => exact here.elim
      | string => exact .inl (decodeAt_string.2 (decodeAt_string.1 ok))
      | symbol => exact .inl (decodeAt_symbol.2 (decodeAt_symbol.1 ok))
      | literal => exact .inl (decodeAt_literal.2 (decodeAt_literal.1 ok))
      | optional _ inner =>
        rcases decodeAt_optional.1 ok with ⟨null, -⟩ | ⟨notNull, okInner⟩
        · cases null
        · rcases ih inner (List.mem_singleton.2 rfl) okInner with same | ⟨error, l, failed, cause⟩
          · exact .inl (decodeAt_optional.2 (.inr ⟨notNull, same⟩))
          · refine .inr ⟨error, l, ?_, cause⟩
            rw [decodeAt_eq] at failed ⊢
            exact failed
      | lazy _ reference =>
        obtain ⟨l, -, okTarget⟩ := decodeAt_lazy.1 ok
        rw [decodeAt_eq]
        exact .deeper fun l' eq ↦ fewer l' (by omega) (resolved reference) okTarget
      | number | integer | boolean | null | array | tuple | struct | record
        | discriminatedUnion =>
        simp [decodeAt_number, decodeAt_integer, decodeAt_boolean, decodeAt_null, decodeAt_array,
          decodeAt_tuple, decodeAt_struct, decodeAt_record, decodeAt_discriminatedUnion] at ok

/-! ### Fixed points, kind by kind -/

/-- How many items there are decides whether the constraints hold, where items may repeat. -/
theorem ArrayConstraints.violation?_of_length {c : ArrayConstraints} (settled : c.unique = false)
    {items items' : List Value} (length : items'.length = items.length) :
    c.violation? items' = c.violation? items := by
  simp [ArrayConstraints.violation?, settled, length]

section FixedPoints

variable {references : References}

/-- Whatever the node decodes, it decodes again to the same value in either form, unless levels run
out. -/
private def Fixed (references : References) (limit levels : Nat) (node : Node) : Prop :=
  ∀ limit' levels' raw decoded, decodeAt references limit' levels' node raw = .ok decoded →
    ∀ hops, Yields (decodeAt references limit levels node (form references hops node decoded))
      decoded

variable {limit levels : Nat} {place : Option Place}

private theorem fixed_array {item : Node} {c : ArrayConstraints} (settled : c.unique = false)
    (each : ∀ l, levels = l + 1 → Fixed references limit l item) :
    Fixed references limit levels (.array place item c) := by
  intro limit' levels' raw decoded ok hops
  obtain ⟨l', items, out, -, rfl, sound, oks, rfl⟩ := decodeAt_array.1 ok
  have length : (out.map (form references hops item)).length = items.length := by
    rw [List.length_map, oks.length_eq]
  rw [form_array, decodeAt_eq]
  show Yields (decodeArray limit (decoderBelow references limit levels) item c (.array _)) _
  rw [decodeArray, ArrayConstraints.violation?_of_length settled length, sound]
  refine Yields.deeper fun l eq ↦ (yields_decodeItems ?_ 0).map
  refine List.forall₂_map_left_iff.2 (List.forall₂_same.2 fun o member ↦ ?_)
  obtain ⟨i, -, okItem⟩ := forall₂_exists_of_mem oks.flip member
  exact each l eq _ _ i o okItem hops

private theorem fixed_tuple {elements : List Node}
    (each : ∀ l, levels = l + 1 → ∀ element ∈ elements, Fixed references limit l element) :
    Fixed references limit levels (.tuple place elements) := by
  intro limit' levels' raw decoded ok hops
  obtain ⟨l', items, out, -, rfl, length, oks, rfl⟩ := decodeAt_tuple.1 ok
  have lengthOut : out.length = elements.length := by
    have pairs := oks.length_eq
    rw [List.length_zip] at pairs
    omega
  have lengthForms :
      ((elements.zip out).map fun pair ↦ form references hops pair.1 pair.2).length
        = elements.length := by
    rw [List.length_map, List.length_zip, lengthOut, Nat.min_self]
  rw [form_tuple references hops place lengthOut, decodeAt_eq]
  show Yields (decodeTuple limit (decoderBelow references limit levels) elements (.array _)) _
  rw [decodeTuple, if_pos lengthForms]
  refine Yields.deeper fun l eq ↦ (yields_decodeElements lengthForms ?_ 0).map
  -- Elements, raw items and decoded items stand side by side; the forms are those of the decoded.
  refine forall₂_zip_zip (s := fun node o f ↦ Yields (decodeAt references limit l node f) o)
    lengthOut (List.forall₂_map_right_iff.2 ?_)
  have beside := List.forall₂_iff_zip.1 (forall₂_zip_zip
    (s := fun node raw d ↦ decodeAt references limit' l' node raw = .ok d) length oks)
  refine List.forall₂_same.2 fun pair inPairs ↦ ?_
  obtain ⟨raw, -, okItem⟩ := forall₂_exists_of_mem (List.forall₂_iff_zip.2 beside) inPairs
  exact each l eq pair.1 (List.of_mem_zip inPairs).1 _ _ raw pair.2 okItem hops

/-- What a struct decoded has the undeclared entries that were kept, and no others. -/
private theorem undeclared_decodeStruct {decoder : Decoder} {input : Entries Value}
    {fields : List (String × Node)} {out : List (String × Value)}
    (oks : decodeFields decoder input fields = .ok out) (extraKeys : ExtraKeys) :
    undeclared fields (out ++ if extraKeys = .include then undeclared fields input else []) =
      if extraKeys = .include then undeclared fields input else [] := by
  have sub := keys_sublist_of_decodeFields oks
  rw [undeclared_append fun key member ↦ sub.subset member]
  split
  · exact undeclared_undeclared fields input
  · rfl

variable (references) (place) in
/-- The form of what a struct decoded is an object with the same undeclared entries and the fields
in their own form. -/
private theorem exists_form_struct (extraKeys : ExtraKeys) {decoder : Decoder}
    {input : Entries Value} {fields : List (String × Node)} {out : List (String × Value)}
    (distinct : Entries.Distinct fields) (oks : decodeFields decoder input fields = .ok out)
    (hops : Option Nat) :
    ∃ input', form references hops (.struct place fields extraKeys)
          (.object (out ++ if extraKeys = .include then undeclared fields input else [])) =
        .object input'
      ∧ undeclared fields input' = (if extraKeys = .include then undeclared fields input else [])
      ∧ ∀ name node, (name, node) ∈ fields → Entries.get? name input' =
          (Entries.get? name out).map (form references hops node) := by
  have kept := undeclared_decodeStruct oks extraKeys
  have included : undeclared fields (out ++ if extraKeys = .include then undeclared fields input
      else []) = [] ∨ extraKeys = .include := by
    rw [kept]
    split
    · next policy => exact .inr policy
    · exact .inl rfl
  obtain ⟨input', formEq, extra, each⟩ := form_struct references hops place distinct included
  refine ⟨input', formEq, extra.trans kept, fun name node member ↦ ?_⟩
  rw [each name node member, get?_decodeStruct oks, if_pos (Entries.mem_keys member)]

private theorem fixed_struct {fields : List (String × Node)} {extraKeys : ExtraKeys}
    (distinct : Entries.Distinct fields)
    (each : ∀ l, levels = l + 1 → ∀ name node, (name, node) ∈ fields →
      Fixed references limit l node) :
    Fixed references limit levels (.struct place fields extraKeys) := by
  intro limit' levels' raw decoded ok hops
  obtain ⟨l', input, out, -, rfl, -, oks, rfl⟩ := decodeAt_struct.1 ok
  obtain ⟨input', formEq, extra, values⟩ :=
    exists_form_struct references place extraKeys distinct oks hops
  rw [formEq, decodeAt_eq]
  show Yields (decodeStruct limit (decoderBelow references limit levels) fields extraKeys
    (.object input')) _
  have expected : ¬(extraKeys = .reject && !(undeclared fields input').isEmpty) = true := by
    rw [extra]
    cases extraKeys <;> simp
  simp only [decodeStruct, if_neg expected]
  refine Yields.deeper fun l eq ↦ .bind (a := out) (yields_decodeFields oks ?_) (.inl ?_)
  · intro name node member d field
    -- Every field is put back from what decoding it put there: its value, its default or nothing.
    have there := get?_of_decodeFields distinct oks member
    rw [values name node member]
    cases found : Entries.get? name input with
    | some raw =>
      rw [found] at field there
      obtain ⟨d', okField, rfl⟩ := field
      obtain ⟨d, okField', same⟩ := there
      rw [okField, Except.ok.injEq] at okField'
      subst okField'
      rw [same]
      exact ⟨d', each l eq name node member _ _ raw d' okField hops, rfl⟩
    | none =>
      rw [found] at field there
      have same : some d = some (Entries.get? name out) :=
        (show node.absent? = some d from field).symm.trans there
      rw [← Option.some.inj same]
      cases d with
      | none => exact field
      | some default =>
        cases node with
        | optional place' inner default' =>
          cases field
          refine ⟨default, each l eq name _ member 0 0 .null default ?_ hops, rfl⟩
          exact decodeAt_optional.2 (.inl ⟨rfl, rfl⟩)
        | _ => cases field
  · rw [extra]
    split <;> rfl

private theorem fixed_record {key item : Node}
    (resolved : ∀ r, (references.resolve r).All Node.Settled) (settled : key.All Node.Settled)
    (each : ∀ l, levels = l + 1 → Fixed references limit l item) :
    Fixed references limit levels (.record place key item) := by
  intro limit' levels' raw decoded ok hops
  obtain ⟨l', input, out, -, rfl, oks, rfl⟩ := decodeAt_record.1 ok
  have plain (r : Place) := (resolved r).imp fun _ ↦ Node.Settled.noTransform
  have plainKey := settled.imp fun _ ↦ Node.Settled.noTransform
  rw [form_record, decodeAt_eq]
  show Yields (decodeRecord limit (decoderBelow references limit levels) key item (.object _)) _
  rw [decodeRecord]
  refine Yields.deeper fun l eq ↦ ?_
  have again : Entries.ofList (Entries.ofList out) = Entries.ofList out :=
    Entries.ofList_of_distinct (Entries.distinct_ofList out)
  have yields : Yields (decodeEntries (decodeAt references limit l) key item
      ((Entries.ofList out).map fun entry ↦ (entry.1, form references hops item entry.2)))
      (Entries.ofList out) := by
    refine yields_decodeEntries ?_
    refine List.forall₂_map_left_iff.2 (List.forall₂_same.2 fun entry merged ↦ ?_)
    obtain ⟨e, -, ⟨k, okKey, toKey⟩, okValue⟩ :=
      forall₂_exists_of_mem oks.flip (Entries.mem_of_mem_ofList merged)
    have same : entry.1 = e.1 := toKey.symm.trans (toKey_of_decodeAt plain plainKey okKey)
    refine ⟨⟨k, ?_, toKey⟩, each l eq _ _ e.2 entry.2 okValue hops⟩
    rw [same]
    exact yields_decodeAt_text resolved settled okKey
  have merged := yields.map (f := fun entries ↦ Value.object (Entries.ofList entries))
  rwa [again] at merged

private theorem fixed_discriminatedUnion {discriminator : String}
    {variants : List (String × Node)}
    (formed : (Node.discriminatedUnion place discriminator variants).Formed)
    (formedVariant : ∀ tag variant, (tag, variant) ∈ variants → variant.Formed)
    (each : ∀ tag variant, (tag, variant) ∈ variants → Fixed references limit levels variant) :
    Fixed references limit levels (.discriminatedUnion place discriminator variants) := by
  intro limit' levels' raw decoded ok hops
  obtain ⟨input, tag, variant, rfl, tagged, found, okVariant⟩ := decodeAt_discriminatedUnion.1 ok
  have member := Entries.mem_of_get?_eq_some found
  have formedHere := formedVariant _ _ member
  have fits := (Node.checkVariants_eq_ok formed).1 tag.toKey variant member
  have yields := each _ variant member _ _ _ decoded okVariant hops
  -- The tag is decoded to itself and has no other form, so both decodes take one variant.
  have kept := get?_discriminator_of_decodeAt formedHere fits tagged okVariant
  rw [form_discriminatedUnion references hops place kept found]
  obtain ⟨place', fields, extraKeys, type, only, rfl, declared, -, -⟩ :=
    Node.variantFault?_eq_none fits
  obtain ⟨l, _, out, -, -, -, oks, rfl⟩ := decodeAt_struct.1 okVariant
  obtain ⟨input', formEq, -, values⟩ :=
    exists_form_struct references place' extraKeys formedHere oks hops
  have inFields := Entries.mem_of_get?_eq_some declared
  rw [Value.get?, get?_decodeStruct oks, if_pos (Entries.mem_keys inFields)] at kept
  have tagged' : Entries.get? discriminator input' = some tag := by
    rw [values discriminator _ inFields, kept, Option.map_some, Option.some.injEq]
    cases hops <;> simp [form, encodeAt_eq, encodeNode]
  rw [formEq] at yields ⊢
  have same : decodeAt references limit levels
      (.discriminatedUnion place discriminator variants) (.object input') =
      decodeAt references limit levels (.struct place' fields extraKeys) (.object input') := by
    simp only [decodeAt_eq, decodeNode, nonNull, Value.isNull, tagged', decodeVariant_eq, found,
      Option.map_some, Bool.false_eq_true, if_false]
  rwa [same]

private theorem fixed_optional {inner : Node} {default : Option Value}
    (resolved : ∀ r, (references.resolve r).All Node.NoTransform)
    (plain : inner.All Node.NoTransform)
    (decodes : (Node.optional place inner default).DefaultDecoded references)
    (each : Fixed references limit levels inner) :
    Fixed references limit levels (.optional place inner default) := by
  intro limit' levels' raw decoded ok hops
  rw [form_optional]
  by_cases null : decoded = .null
  · subst null
    rw [form_null]
    refine .inl (decodeAt_optional.2 (.inl ⟨rfl, ?_⟩))
    rcases decodeAt_optional.1 ok with ⟨-, eq⟩ | ⟨notNull, okInner⟩
    · exact eq
    · exact absurd rfl (ne_null_of_decodeAt resolved plain notNull okInner)
  · obtain ⟨limit'', levels'', raw', okInner⟩ : ∃ limit'' levels'' raw',
        decodeAt references limit'' levels'' inner raw' = .ok decoded := by
      rcases decodeAt_optional.1 ok with ⟨-, rfl⟩ | ⟨-, okInner⟩
      · cases default with
        | none => exact absurd rfl null
        | some default =>
          obtain ⟨raw', decodes⟩ := decodes
          exact ⟨_, _, raw', decodes⟩
      · exact ⟨_, _, raw, okInner⟩
    have notNull := form_ne_null resolved plain hops null
    have yields := each _ _ raw' decoded okInner hops
    rw [decodeAt_eq] at yields ⊢
    show Yields (if _ then _ else _) decoded
    rwa [if_neg fun isNull ↦ notNull (Value.isNull_eq_true_iff.1 isNull)]

private theorem fixed_lazy {name : String} {reference : Place}
    (each : ∀ l, levels = l + 1 → Fixed references limit l (references.resolve reference)) :
    Fixed references limit levels (.lazy name reference) := by
  intro limit' levels' raw decoded ok hops
  obtain ⟨l', -, okTarget⟩ := decodeAt_lazy.1 ok
  obtain ⟨hops', formEq⟩ := exists_form_lazy references hops name reference decoded
  rw [formEq, decodeAt_eq]
  exact .deeper fun l eq ↦ each l eq _ _ raw decoded okTarget hops'

/-- Whatever a node decodes, in a tree of settled nodes whose defaults are decoded, it decodes again
to the same value in either form, unless levels run out. -/
private theorem fixed_node
    (resolved : ∀ r, (references.resolve r).All fun n ↦
      (n.Formed ∧ n.Settled) ∧ n.DefaultDecoded references) {node : Node}
    (good : node.All fun n ↦ (n.Formed ∧ n.Settled) ∧ n.DefaultDecoded references) :
    Fixed references limit levels node := by
  have settled (r : Place) := (resolved r).imp fun _ h ↦ h.1.2
  have plain (r : Place) := (settled r).imp fun _ ↦ Node.Settled.noTransform
  -- On the levels of the second decode, and within them on the node.
  induction levels using Nat.strongRecOn generalizing node with
  | ind levels fewer =>
    have next (l : Nat) (eq : levels = l + 1) {n : Node}
        (h : n.All fun n ↦ (n.Formed ∧ n.Settled) ∧ n.DefaultDecoded references) :
        Fixed references limit l n :=
      fewer l (by omega) h
    induction good with
    | @intro node here below ih =>
      have good : node.All fun n ↦ (n.Formed ∧ n.Settled) ∧ n.DefaultDecoded references :=
        .intro here below
      cases node with
      | string =>
        intro _ _ _ _ ok hops
        obtain ⟨text, -, sound, rfl⟩ := decodeAt_string.1 ok
        cases hops <;> exact .inl (by simp [form, encodeAt_eq, encodeNode, decodeAt_string, sound])
      | number =>
        intro _ _ _ _ ok hops
        obtain ⟨n, -, sound, rfl⟩ := decodeAt_number.1 ok
        cases hops <;> exact .inl (by simp [form, encodeAt_eq, encodeNode, decodeAt_number, sound])
      | integer =>
        intro _ _ _ _ ok hops
        obtain ⟨n, -, integral, sound, rfl⟩ := decodeAt_integer.1 ok
        cases hops <;> exact .inl
          (by simp [form, encodeAt_eq, encodeNode, decodeAt_integer, integral, sound])
      | boolean =>
        intro _ _ _ _ ok hops
        obtain ⟨b, -, rfl⟩ := decodeAt_boolean.1 ok
        cases hops <;> exact .inl (by simp [form, encodeAt_eq, encodeNode, decodeAt_boolean])
      | null =>
        intro _ _ _ _ ok hops
        obtain ⟨-, rfl⟩ := decodeAt_null.1 ok
        rw [form_null]
        exact .inl (decodeAt_null.2 ⟨rfl, rfl⟩)
      | symbol =>
        intro _ _ _ _ ok hops
        obtain ⟨name, -, rfl⟩ := decodeAt_symbol.1 ok
        cases hops <;> exact .inl (by simp [form, encodeAt_eq, encodeNode, decodeAt_symbol])
      | literal =>
        intro _ _ _ _ ok hops
        obtain ⟨notNull, listed, rfl⟩ := decodeAt_literal.1 ok
        cases hops <;> exact .inl (by
          simpa [form, encodeAt_eq, encodeNode, decodeAt_literal] using ⟨notNull, listed⟩)
      | array => exact fixed_array here.1.2 fun l eq ↦ next l eq good.item
      | tuple => exact fixed_tuple fun l eq _ member ↦ next l eq (good.element member)
      | struct => exact fixed_struct here.1.1 fun l eq _ _ member ↦ next l eq (good.field member)
      | record =>
        exact fixed_record settled (good.key.imp fun _ h ↦ h.1.2) fun l eq ↦ next l eq good.value
      | union => exact here.1.2.elim
      | discriminatedUnion =>
        apply fixed_discriminatedUnion here.1.1 fun _ _ member ↦ (good.variant member).here.1.1
        intro tag variant member
        exact ih variant (List.mem_map.2 ⟨(tag, variant), member, rfl⟩)
      | optional _ inner =>
        have innerGood := below inner (List.mem_singleton.2 rfl)
        exact fixed_optional plain (innerGood.imp fun _ h ↦ h.1.2.noTransform) here.2
          (ih inner (List.mem_singleton.2 rfl))
      | transform => exact here.1.2.elim
      | lazy _ reference => exact fixed_lazy fun l eq ↦ next l eq (resolved reference)

end FixedPoints

/-- Whatever a declared schema of settled nodes decodes, under any depth limit, it decodes again to
the same value, and so it does with the external form, unless the depth limit of the second decode
is exceeded. -/
theorem Blueprint.decode_decoded {definitions : List (String × Blueprint)} {root : Blueprint}
    (distinct : Entries.Distinct definitions) {schema : Schema}
    (declared : toSchema definitions root = .ok schema) (settled : schema.All Node.Settled)
    {value decoded : Value} {maxDepth : Nat} (ok : schema.decode value maxDepth = .ok decoded)
    (maxDepth' : Nat) :
    Yields (schema.decode decoded maxDepth') decoded
      ∧ Yields (schema.decode (schema.encode decoded) maxDepth') decoded := by
  have formed := toSchema_formed declared
  have defaults := toSchema_defaultDecoded distinct declared
  have resolved (r : Place) :=
    ((formed.resolved r).and (settled.resolved r)).and (defaults.resolved r)
  have fixed : Fixed schema.references maxDepth' maxDepth' schema.root :=
    fixed_node resolved ((formed.root.and settled.root).and defaults.root)
  exact ⟨fixed _ _ value decoded ok none, fixed _ _ value decoded ok (some defaultMaxDepth)⟩

/-- The definition of a forest: a named tree with a weight, which is ten where it is not given, and
with subtrees; other keys are dropped. -/
def Blueprint.forest : List (String × Blueprint) :=
  [("tree", .struct
    [("name", .symbol),
      ("weight", .optional (.integer {}) (some (.number (.integer 10 (by decide))))),
      ("subtrees", .array (.lazy "tree" "tree") {})] .allow)]

/-- The tree of a forest. -/
def Node.weighted : Node :=
  .struct (some [0])
    [("name", .symbol),
      ("weight", .optional (some [1, 0]) (.integer {}) (some (.number (.integer 10 (by decide))))),
      ("subtrees", .array (some [2, 0]) (.lazy "tree" [0, 2, 0]) {})] .allow

/-- The schema of a tree in a forest. -/
def Schema.forest : Schema where
  root := .lazy "tree" [1]
  references := [([1], .weighted), ([0, 2, 0], .weighted)]

/-- A tree whose weights are null and absent, with a key to drop. -/
def Value.forest : Value :=
  .object [("subtrees", .array [.object [("name", .string "leaf"), ("subtrees", .array [])]]),
    ("name", .string "root"), ("weight", .null), ("note", .bool true)]

/-- The decoded tree has its symbols, its weights and the order of its fields, and keeps them. -/
theorem Blueprint.decode_decoded_forest :
    Entries.Distinct forest ∧ toSchema forest (.lazy "tree" "tree") = .ok .forest
      ∧ ∃ decoded, Schema.forest.decode Value.forest 6 = .ok decoded
        ∧ Yields (Schema.forest.decode decoded 9) decoded
        ∧ Yields (Schema.forest.decode (Schema.forest.encode decoded) 9) decoded := by
  have distinct : Entries.Distinct forest := by decide
  have declared : toSchema forest (.lazy "tree" "tree") = .ok .forest := rfl
  have weighted : Node.weighted.All Node.Settled := by
    simp [Node.weighted, Node.all_iff (.struct _ _ _), Node.all_iff .symbol,
      Node.all_iff (.integer _), Node.all_iff (.optional _ _ _), Node.all_iff (.array _ _ _),
      Node.all_iff (.lazy _ _), Node.children, Entries.values, Node.Settled]
  have settled : Schema.forest.All Node.Settled := by
    refine ⟨.intro trivial (by simp [Schema.forest, Node.children]),
      References.resolve_induction ?_ (.intro trivial (by simp [Node.children]))⟩
    simpa [Schema.forest] using weighted
  obtain ⟨decoded, ok⟩ : ∃ decoded, Schema.forest.decode Value.forest 6 = .ok decoded := ⟨_, rfl⟩
  exact ⟨distinct, declared, decoded, ok, decode_decoded distinct declared settled ok 9⟩

end Schemata
