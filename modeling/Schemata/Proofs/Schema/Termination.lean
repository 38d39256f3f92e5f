import Mathlib.Data.Set.Finite.Basic
import Mathlib.Order.Filter.AtTopBot.Basic
import Mathlib.Order.Filter.Finite
import Schemata.Proofs.Schema.Encoding
import Schemata.Schema.Recursion

/-!
# Decoding and encoding end

The plain recursion of the engine ends on every schema: there is a bound on the nested calls that no
value exceeds, and within it the results are those of the functions that go by levels and by hops
(`Schema.engine_ends`). A reference may lead back to where it came from without using up any input,
so what decreases is not the value. Decoding has a level less behind every reference and within
every container, and among calls on one level it goes down the tree of a node. Encoding only counts
references: in a union it decodes what it has encoded, anew and from the first level, which is known
to end by then.
-/

namespace Schemata

open Filter

/-! ### Decoding -/

section Lists

variable {decode : Node → Value → Option (Except DecodeError Value)} {decoder : Decoder}

private theorem decodeItemsBy_eq {item : Node}
    (ends : ∀ value, decode item value = some (decoder item value)) (i : Nat)
    (items : List Value) :
    decodeItemsBy (decode item) i items = some (decodeItems (decoder item) i items) := by
  induction items generalizing i with
  | nil => rfl
  | cons value rest ih =>
    rw [decodeItemsBy, decodeItems, ends value, Option.bind_eq_bind, Option.bind_some, ih]
    generalize located (.index i) _ = first, decodeItems _ _ _ = later
    cases first <;> cases later <;> rfl

private theorem decodeElementsBy_eq {nodes : List Node}
    (ends : ∀ node ∈ nodes, ∀ value, decode node value = some (decoder node value)) (i : Nat)
    (items : List Value) :
    decodeElementsBy decode i nodes items = some (decodeElements decoder i nodes items) := by
  induction nodes generalizing i items with
  | nil => simp [decodeElementsBy, decodeElements]
  | cons node nodes ih =>
    obtain ⟨here, later⟩ := List.forall_mem_cons.1 ends
    cases items with
    | nil => simp [decodeElementsBy, decodeElements]
    | cons value rest =>
      rw [decodeElementsBy, decodeElements, here value, Option.bind_eq_bind, Option.bind_some,
        ih later]
      generalize located (.position i) _ = first, decodeElements _ _ _ _ = later
      cases first <;> cases later <;> rfl

private theorem decodeFieldsBy_eq {fields : List (String × Node)}
    (ends : ∀ field ∈ fields, ∀ value, decode field.2 value = some (decoder field.2 value))
    (input : Entries Value) :
    decodeFieldsBy decode input fields = some (decodeFields decoder input fields) := by
  induction fields with
  | nil => rfl
  | cons field rest ih =>
    obtain ⟨here, later⟩ := List.forall_mem_cons.1 ends
    obtain ⟨name, node⟩ := field
    have later := ih later
    cases found : Entries.get? name input with
    | some raw =>
      rw [decodeFieldsBy.eq_def, decodeFields.eq_def]
      simp only [found, here raw, Option.bind_eq_bind, Option.bind_some, later]
      generalize located (.field name) _ = first, decodeFields _ _ _ = later
      cases first <;> cases later <;> rfl
    | none =>
      cases node with
      | optional _ _ default =>
        cases default with
        | none => simp only [decodeFieldsBy, decodeFields, found, later]
        | some default =>
          simp only [decodeFieldsBy, decodeFields, found, later]
          cases decodeFields decoder input rest <;> rfl
      | _ => simp only [decodeFieldsBy, decodeFields, found, Option.pure_def]

private theorem decodeEntriesBy_eq {key item : Node}
    (endsKey : ∀ value, decode key value = some (decoder key value))
    (endsItem : ∀ value, decode item value = some (decoder item value))
    (entries : List (String × Value)) :
    decodeEntriesBy decode key item entries = some (decodeEntries decoder key item entries) := by
  induction entries with
  | nil => rfl
  | cons entry rest ih =>
    obtain ⟨k, value⟩ := entry
    rw [decodeEntriesBy, decodeEntries, endsKey (.string k), endsItem value]
    simp only [Option.bind_eq_bind, Option.bind_some, ih]
    generalize decoder key _ = first, decoder item _ = second, decodeEntries _ _ _ _ = later
    cases first <;> cases second <;> cases later <;> rfl

private theorem decodeMembersBy_eq {references : References} {limit : Nat}
    {below : Option Decoder} (members : List Node)
    (ends : ∀ member ∈ members, ∀ value,
      decode member value = some (decodeNode references limit below member value))
    (value : Value) :
    decodeMembersBy decode members value =
      some (decodeMembers references limit below members value) := by
  induction members with
  | nil => rw [decodeMembersBy, decodeMembers]; rfl
  | cons member rest ih =>
    obtain ⟨here, later⟩ := List.forall_mem_cons.1 ends
    rw [decodeMembersBy, decodeMembers, here value, ih later]
    generalize decodeNode _ _ _ member value = first, decodeMembers _ _ _ _ _ = later
    cases first <;> cases later <;> rfl

end Lists

section Decoding

variable {references : References} {maxDepth calls depth : Nat}

/-- Within so many nested calls, decoding by a node below so many levels ends, with the result for
the levels that are left. -/
private def DecodeEnds (references : References) (maxDepth calls depth : Nat) (node : Node) :
    Prop :=
  ∀ value, decodeFrom references maxDepth calls depth node value =
    some (decodeAt references maxDepth (maxDepth - depth) node value)

/-- A call one level deeper fails where no level is left, and otherwise ends if its run does. -/
private theorem deeper_ends {α : Type} {result : Option (Except DecodeError α)}
    {run : Decoder → Except DecodeError α}
    (inside : depth < maxDepth →
      result = some (run (decodeAt references maxDepth (maxDepth - (depth + 1))))) :
    deeperBy maxDepth depth result =
      some (deeper maxDepth (decoderBelow references maxDepth (maxDepth - depth)) run) := by
  rw [deeperBy]
  split
  · next none =>
    rw [Nat.sub_eq_zero_of_le none]
    rfl
  · next some =>
    rw [inside (by omega), show maxDepth - depth = maxDepth - (depth + 1) + 1 by omega]
    rfl

/-- The parts of a container are decoded one level deeper, where there is one. -/
private theorem decodeEnds_array {place : Option Place} {item : Node} {c : ArrayConstraints}
    (ends : depth < maxDepth → DecodeEnds references maxDepth calls (depth + 1) item) :
    DecodeEnds references maxDepth (calls + 1) depth (.array place item c) := by
  intro value
  rw [decodeAt_eq]
  cases value with
  | array items =>
    show decodeArrayBy maxDepth depth _ c (.array items) =
      some (decodeArray _ _ item c (.array items))
    rw [decodeArrayBy, decodeArray]
    cases c.violation? items with
    | some violation => rfl
    | none =>
      refine deeper_ends fun inside ↦ ?_
      rw [decodeItemsBy_eq (ends inside)]
      rfl
  | _ => rfl

private theorem decodeEnds_tuple {place : Option Place} {elements : List Node}
    (ends : depth < maxDepth →
      ∀ element ∈ elements, DecodeEnds references maxDepth calls (depth + 1) element) :
    DecodeEnds references maxDepth (calls + 1) depth (.tuple place elements) := by
  intro value
  rw [decodeAt_eq]
  cases value with
  | array items =>
    show decodeTupleBy maxDepth depth _ elements (.array items) =
      some (decodeTuple _ _ elements (.array items))
    rw [decodeTupleBy, decodeTuple]
    split
    · refine deeper_ends fun inside ↦ ?_
      rw [decodeElementsBy_eq (ends inside)]
      rfl
    · rfl
  | _ => rfl

private theorem decodeEnds_struct {place : Option Place} {fields : List (String × Node)}
    {extraKeys : ExtraKeys}
    (ends : depth < maxDepth →
      ∀ field ∈ fields, DecodeEnds references maxDepth calls (depth + 1) field.2) :
    DecodeEnds references maxDepth (calls + 1) depth (.struct place fields extraKeys) := by
  intro value
  rw [decodeAt_eq]
  cases value with
  | object input =>
    show decodeStructBy maxDepth depth _ fields extraKeys (.object input) =
      some (decodeStruct _ _ fields extraKeys (.object input))
    simp only [decodeStructBy, decodeStruct]
    split
    · rfl
    · refine deeper_ends fun inside ↦ ?_
      rw [decodeFieldsBy_eq (ends inside)]
      generalize decodeFields _ _ _ = decoded
      cases decoded <;> rfl
  | _ => rfl

private theorem decodeEnds_record {place : Option Place} {key item : Node}
    (ends : depth < maxDepth → DecodeEnds references maxDepth calls (depth + 1) key
      ∧ DecodeEnds references maxDepth calls (depth + 1) item) :
    DecodeEnds references maxDepth (calls + 1) depth (.record place key item) := by
  intro value
  rw [decodeAt_eq]
  cases value with
  | object input =>
    show decodeRecordBy maxDepth depth _ key item (.object input) =
      some (decodeRecord _ _ key item (.object input))
    rw [decodeRecordBy, decodeRecord]
    refine deeper_ends fun inside ↦ ?_
    rw [decodeEntriesBy_eq (ends inside).1 (ends inside).2]
    rfl
  | _ => rfl

private theorem decodeEnds_union {place : Option Place} {members : List Node}
    (ends : ∀ member ∈ members, DecodeEnds references maxDepth calls depth member) :
    DecodeEnds references maxDepth (calls + 1) depth (.union place members) := by
  intro value
  have each : ∀ member ∈ members, ∀ value, decodeFrom references maxDepth calls depth member value =
      some (decodeNode references maxDepth (decoderBelow references maxDepth (maxDepth - depth))
        member value) := by
    intro member among value
    rw [← decodeAt_eq]
    exact ends member among value
  show decodeUnionBy _ members value = _
  rw [decodeUnionBy, decodeMembersBy_eq members each, decodeAt_eq, decodeNode]
  generalize decodeMembers _ _ _ _ _ = result
  cases result <;> rfl

private theorem decodeEnds_discriminatedUnion {place : Option Place} {discriminator : String}
    {variants : List (String × Node)}
    (ends : ∀ variant ∈ variants, DecodeEnds references maxDepth calls depth variant.2) :
    DecodeEnds references maxDepth (calls + 1) depth
      (.discriminatedUnion place discriminator variants) := by
  intro value
  rw [decodeAt_eq]
  cases value with
  | object input =>
    show decodeTaggedBy _ discriminator variants (.object input) = _
    simp only [decodeTaggedBy, decodeNode, decodeVariant_eq, nonNull, Value.isNull]
    cases Entries.get? discriminator input with
    | none => rfl
    | some tag =>
      dsimp only
      cases found : Entries.get? tag.toKey variants with
      | none => rfl
      | some variant =>
        have here := ends _ (Entries.mem_of_get?_eq_some found) (.object input)
        rwa [decodeAt_eq] at here
  | _ => rfl

private theorem decodeEnds_optional {place : Option Place} {inner : Node} {default : Option Value}
    (ends : DecodeEnds references maxDepth calls depth inner) :
    DecodeEnds references maxDepth (calls + 1) depth (.optional place inner default) := by
  intro value
  rw [decodeAt_eq]
  show (if value.isNull then some (.ok (default.getD .null))
      else decodeFrom references maxDepth calls depth inner value) =
    some (if value.isNull then .ok (default.getD .null)
      else decodeNode references maxDepth _ inner value)
  rw [← decodeAt_eq, ends value]
  split <;> rfl

private theorem decodeEnds_transform {place : Option Place} {inner : Node}
    {target : String} {conversion : Conversion}
    (ends : DecodeEnds references maxDepth calls depth inner) :
    DecodeEnds references maxDepth (calls + 1) depth
      (.transform place inner target conversion) := by
  intro value
  show (decodeFrom references maxDepth calls depth inner value >>= fun decoded ↦ _) = _
  rw [ends value, decodeAt_eq, decodeAt_eq]
  rfl

private theorem decodeEnds_lazy {name : String} {reference : Place}
    (ends : depth < maxDepth →
      DecodeEnds references maxDepth calls (depth + 1) (references.resolve reference)) :
    DecodeEnds references maxDepth (calls + 1) depth (.lazy name reference) := by
  intro value
  rw [decodeAt_eq]
  exact deeper_ends fun inside ↦ ends inside value

/-- What holds with one more call from some bound on holds from some bound on. -/
private theorem eventually_of_succ {p : Nat → Prop} (holds : ∀ᶠ calls in atTop, p (calls + 1)) :
    ∀ᶠ calls in atTop, p calls := by
  rw [← map_add_atTop_eq_nat 1]
  exact holds

/-- What holds of each of finitely many things from some bound on holds of all from some on. -/
private theorem eventually_forall_mem {α : Type} {items : List α} {p : Nat → α → Prop}
    (each : ∀ a ∈ items, ∀ᶠ calls in atTop, p calls a) :
    ∀ᶠ calls in atTop, ∀ a ∈ items, p calls a :=
  items.finite_toSet.eventually_all.2 each

/-- With enough nested calls decoding ends, whatever the value. -/
private theorem eventually_decodeEnds (references : References) (maxDepth depth : Nat)
    (node : Node) : ∀ᶠ calls in atTop, DecodeEnds references maxDepth calls depth node := by
  -- On the levels left, and within one level on the node.
  induction left : maxDepth - depth using Nat.strongRecOn generalizing depth node with
  | ind left deeper =>
    have next (node : Node) : ∀ᶠ calls in atTop,
        depth < maxDepth → DecodeEnds references maxDepth calls (depth + 1) node :=
      eventually_imp_distrib_left.2 fun _ ↦
        deeper (maxDepth - (depth + 1)) (by omega) (depth + 1) node rfl
    induction node using Node.induction with
    | step node ih =>
      refine eventually_of_succ ?_
      cases node with
      | string | number | integer | boolean | null | symbol | literal =>
        refine .of_forall fun calls value ↦ ?_
        rw [decodeAt_eq]
        rfl
      | array _ item => exact (next item).mono fun _ ends ↦ decodeEnds_array ends
      | tuple _ elements =>
        filter_upwards [eventually_forall_mem fun element _ ↦ next element] with calls ends
        exact decodeEnds_tuple fun inside element among ↦ ends element among inside
      | struct _ fields =>
        have each : ∀ field ∈ fields, ∀ᶠ calls in atTop,
            depth < maxDepth → DecodeEnds references maxDepth calls (depth + 1) field.2 :=
          fun field _ ↦ next field.2
        filter_upwards [eventually_forall_mem each] with calls ends
        exact decodeEnds_struct fun inside field among ↦ ends field among inside
      | record _ key item =>
        filter_upwards [next key, next item] with calls endsKey endsItem
        exact decodeEnds_record fun inside ↦ ⟨endsKey inside, endsItem inside⟩
      | union => exact (eventually_forall_mem ih).mono fun _ ends ↦ decodeEnds_union ends
      | discriminatedUnion _ _ variants =>
        have each : ∀ variant ∈ variants, ∀ᶠ calls in atTop,
            DecodeEnds references maxDepth calls depth variant.2 :=
          fun variant among ↦ ih variant.2 (List.mem_map.2 ⟨variant, among, rfl⟩)
        exact (eventually_forall_mem each).mono fun _ ends ↦ decodeEnds_discriminatedUnion ends
      | optional _ inner =>
        exact (ih inner (List.mem_singleton.2 rfl)).mono fun _ ends ↦ decodeEnds_optional ends
      | transform _ inner =>
        exact (ih inner (List.mem_singleton.2 rfl)).mono fun _ ends ↦ decodeEnds_transform ends
      | lazy _ reference =>
        exact (next (references.resolve reference)).mono fun _ ends ↦ decodeEnds_lazy ends

end Decoding

/-! ### Encoding -/

section Encoding

variable {references : References} {calls depth : Nat}

/-- Within so many nested calls, encoding by a node behind so many references ends, with the result
for those that are left. -/
private def EncodeEnds (references : References) (calls depth : Nat) (node : Node) : Prop :=
  ∀ value, encodeFrom references calls depth node value =
    some (encodeNode references (encoderBehind references (defaultMaxDepth - depth)) node value)

/-- Calls that end, one after the other. -/
private theorem mapM_ends {α β : Type} {run : α → Option β} {result : α → β} {items : List α}
    (ends : ∀ a ∈ items, run a = some (result a)) :
    items.mapM run = some (items.map result) := by
  induction items with
  | nil => rfl
  | cons a rest ih =>
    obtain ⟨here, later⟩ := List.forall_mem_cons.1 ends
    rw [List.mapM_cons, here, ih later]
    rfl

private theorem encodeFieldsBy_eq {fields : List (String × Node)}
    (ends : ∀ field ∈ fields, EncodeEnds references calls depth field.2)
    (input : Entries Value) :
    encodeFieldsBy (encodeFrom references calls depth) fields input =
      some (encodeFields references (encoderBehind references (defaultMaxDepth - depth)) fields
        input) := by
  induction fields with
  | nil => rw [encodeFieldsBy, encodeFields]; rfl
  | cons field rest ih =>
    obtain ⟨here, later⟩ := List.forall_mem_cons.1 ends
    obtain ⟨name, node⟩ := field
    cases found : Entries.get? name input with
    | none =>
      simp only [encodeFieldsBy, encodeFields, found]
      exact ih later
    | some value =>
      simp only [encodeFieldsBy, encodeFields, found, ih later, here value]
      rfl

/-- A union tries its members in turn, each by a decode from the first level. -/
private theorem encodeMembersBy_eq (members : List Node)
    (ends : ∀ member ∈ members, EncodeEnds references calls depth member
      ∧ DecodeEnds references defaultMaxDepth calls 0 member) (value : Value) :
    encodeMembersBy (encodeFrom references calls depth)
        (decodeFrom references defaultMaxDepth calls 0) members value =
      some (encodeMembers references (encoderBehind references (defaultMaxDepth - depth)) members
        value) := by
  induction members with
  | nil => rw [encodeMembersBy, encodeMembers]; rfl
  | cons member rest ih =>
    obtain ⟨⟨here, decodes⟩, later⟩ := List.forall_mem_cons.1 ends
    rw [encodeMembersBy, encodeMembers, here value, Option.bind_eq_bind, Option.bind_some,
      decodes, Nat.sub_zero, accepts]
    generalize decodeAt references _ _ member _ = result
    cases result with
    | ok decoded => rfl
    | error failure => exact ih later

private theorem unlessNull_ends {value result : Value} {run : Option Value}
    (ends : run = some result) :
    unlessNullBy value run = some (unlessNull value result) := by
  rw [unlessNullBy, unlessNull, ends]
  split <;> rfl

private theorem encodeEnds_array {place : Option Place} {item : Node} {c : ArrayConstraints}
    (ends : EncodeEnds references calls depth item) :
    EncodeEnds references (calls + 1) depth (.array place item c) := by
  intro value
  cases value with
  | array items =>
    show encodeArrayBy _ (.array items) = _
    rw [encodeArrayBy, mapM_ends fun value _ ↦ ends value]
    rfl
  | _ => rfl

private theorem encodeEnds_tuple {place : Option Place} {elements : List Node}
    (ends : ∀ element ∈ elements, EncodeEnds references calls depth element) :
    EncodeEnds references (calls + 1) depth (.tuple place elements) := by
  intro value
  cases value with
  | array items =>
    have each (pair : Node × Value) (member : pair ∈ elements.zip items) :=
      ends pair.1 (List.of_mem_zip member).1 pair.2
    show encodeTupleBy _ elements (.array items) = _
    rw [encodeTupleBy, mapM_ends each]
    simp only [encodeNode, encodeElements_eq]
    split <;> rfl
  | _ => rfl

private theorem encodeEnds_struct {place : Option Place} {fields : List (String × Node)}
    {extraKeys : ExtraKeys}
    (ends : ∀ field ∈ fields, EncodeEnds references calls depth field.2) :
    EncodeEnds references (calls + 1) depth (.struct place fields extraKeys) := by
  intro value
  cases value with
  | object input =>
    show encodeStructBy _ fields extraKeys (.object input) = _
    rw [encodeStructBy, encodeFieldsBy_eq ends]
    rfl
  | _ => rfl

private theorem encodeEnds_record {place : Option Place} {key item : Node}
    (ends : EncodeEnds references calls depth item) :
    EncodeEnds references (calls + 1) depth (.record place key item) := by
  intro value
  cases value with
  | object input =>
    have each (entry : String × Value) (_ : entry ∈ input) :
        (do return (entry.1, ← encodeFrom references calls depth item entry.2)) =
          some (entry.1, encodeNode references
            (encoderBehind references (defaultMaxDepth - depth)) item entry.2) := by
      rw [ends entry.2]
      rfl
    show encodeRecordBy _ (.object input) = _
    rw [encodeRecordBy, mapM_ends each]
    rfl
  | _ => rfl

private theorem encodeEnds_union {place : Option Place} {members : List Node}
    (ends : ∀ member ∈ members, EncodeEnds references calls depth member
      ∧ DecodeEnds references defaultMaxDepth calls 0 member) :
    EncodeEnds references (calls + 1) depth (.union place members) := by
  intro value
  rw [encodeNode]
  refine unlessNull_ends ?_
  rw [encodeMembersBy_eq members ends]
  rfl

private theorem encodeEnds_discriminatedUnion {place : Option Place} {discriminator : String}
    {variants : List (String × Node)}
    (ends : ∀ variant ∈ variants, EncodeEnds references calls depth variant.2) :
    EncodeEnds references (calls + 1) depth
      (.discriminatedUnion place discriminator variants) := by
  intro value
  show encodeTaggedBy _ discriminator variants value = _
  rw [encodeTaggedBy, encodeNode]
  cases value.get? discriminator with
  | none => rfl
  | some tag =>
    simp only [encodeVariant_eq]
    cases found : Entries.get? tag.toKey variants with
    | none => rfl
    | some variant => exact ends _ (Entries.mem_of_get?_eq_some found) value

private theorem encodeEnds_optional {place : Option Place} {inner : Node} {default : Option Value}
    (ends : EncodeEnds references calls depth inner) :
    EncodeEnds references (calls + 1) depth (.optional place inner default) := by
  intro value
  rw [encodeNode]
  exact unlessNull_ends (ends value)

private theorem encodeEnds_transform {place : Option Place} {inner : Node}
    {target : String} {conversion : Conversion}
    (ends : EncodeEnds references calls depth inner) :
    EncodeEnds references (calls + 1) depth (.transform place inner target conversion) := by
  intro value
  rw [encodeNode]
  exact unlessNull_ends (ends (conversion.encode value))

/-- A reference is followed with one less to go, and not at all where none is left. -/
private theorem encodeEnds_lazy {name : String} {reference : Place}
    (ends : depth < defaultMaxDepth →
      EncodeEnds references calls (depth + 1) (references.resolve reference)) :
    EncodeEnds references (calls + 1) depth (.lazy name reference) := by
  intro value
  show unlessNullBy value _ = some (unlessNull value _)
  refine unlessNull_ends ?_
  split
  · next used =>
    rw [Nat.sub_eq_zero_of_le used]
    rfl
  · next left =>
    rw [ends (by omega) value, ← encodeAt_eq,
      show defaultMaxDepth - depth = defaultMaxDepth - (depth + 1) + 1 by omega]
    rfl

/-- With enough nested calls encoding ends, whatever the value. -/
private theorem eventually_encodeEnds (references : References) (depth : Nat) (node : Node) :
    ∀ᶠ calls in atTop, EncodeEnds references calls depth node := by
  -- On the references to go, and within them on the node.
  induction left : defaultMaxDepth - depth using Nat.strongRecOn generalizing depth node with
  | ind left fewer =>
    induction node using Node.induction with
    | step node ih =>
      refine eventually_of_succ ?_
      cases node with
      | string | number | integer | boolean | null | symbol | literal =>
        exact .of_forall fun calls value ↦ rfl
      | array _ item =>
        exact (ih item (List.mem_singleton.2 rfl)).mono fun _ ends ↦ encodeEnds_array ends
      | tuple => exact (eventually_forall_mem ih).mono fun _ ends ↦ encodeEnds_tuple ends
      | struct _ fields =>
        have each : ∀ field ∈ fields, ∀ᶠ calls in atTop,
            EncodeEnds references calls depth field.2 :=
          fun field among ↦ ih field.2 (List.mem_map.2 ⟨field, among, rfl⟩)
        exact (eventually_forall_mem each).mono fun _ ends ↦ encodeEnds_struct ends
      | record _ _ item =>
        exact (ih item (by simp [Node.children])).mono fun _ ends ↦ encodeEnds_record ends
      | union _ members =>
        have each : ∀ member ∈ members, ∀ᶠ calls in atTop,
            EncodeEnds references calls depth member
              ∧ DecodeEnds references defaultMaxDepth calls 0 member :=
          fun member among ↦ (ih member among).and (eventually_decodeEnds references _ 0 member)
        exact (eventually_forall_mem each).mono fun _ ends ↦ encodeEnds_union ends
      | discriminatedUnion _ _ variants =>
        have each : ∀ variant ∈ variants, ∀ᶠ calls in atTop,
            EncodeEnds references calls depth variant.2 :=
          fun variant among ↦ ih variant.2 (List.mem_map.2 ⟨variant, among, rfl⟩)
        exact (eventually_forall_mem each).mono fun _ ends ↦ encodeEnds_discriminatedUnion ends
      | optional _ inner =>
        exact (ih inner (List.mem_singleton.2 rfl)).mono fun _ ends ↦ encodeEnds_optional ends
      | transform _ inner =>
        exact (ih inner (List.mem_singleton.2 rfl)).mono fun _ ends ↦ encodeEnds_transform ends
      | lazy _ reference =>
        have next : ∀ᶠ calls in atTop, depth < defaultMaxDepth →
            EncodeEnds references calls (depth + 1) (references.resolve reference) :=
          eventually_imp_distrib_left.2 fun _ ↦
            fewer (defaultMaxDepth - (depth + 1)) (by omega) (depth + 1) _ rfl
        exact next.mono fun _ ends ↦ encodeEnds_lazy ends

end Encoding

/-- On every schema, cyclic ones included, decoding under any limit, checking and encoding end: some
bound on the nested calls is enough for every value, and with it and more the results are the same.
-/
theorem Schema.engine_ends (schema : Schema) (maxDepth : Nat) :
    ∃ enough, ∀ more value,
      schema.runDecode (enough + more) value maxDepth = some (schema.decode value maxDepth)
        ∧ schema.runValidate (enough + more) value = some (schema.validate value)
        ∧ schema.runEncode (enough + more) value = some (schema.encode value) := by
  have decodes (limit : Nat) := eventually_decodeEnds schema.references limit 0 schema.root
  have encodes := eventually_encodeEnds schema.references 0 schema.root
  obtain ⟨enough, ends⟩ :=
    eventually_atTop.1 ((decodes maxDepth).and ((decodes defaultMaxDepth).and encodes))
  refine ⟨enough, fun more value ↦ ?_⟩
  obtain ⟨decoded, checked, encoded⟩ := ends (enough + more) (Nat.le_add_right enough more)
  refine ⟨decoded value, ?_, ?_⟩
  · rw [runValidate, runDecode, checked value]
    rfl
  · rw [runEncode, encoded value, ← encodeAt_eq]
    rfl

end Schemata
