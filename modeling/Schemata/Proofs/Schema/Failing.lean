import Schemata.Proofs.Schema.Decoding

/-!
# How decoding fails

A visit is a node set against a value. Where decoding it fails, either the node itself refuses the
value, or a field is absent, or the visit that it hands part of its value to fails, or every member
of a union does: `Visit.Failure`, which `Visit.failure_of_decode` reads off the decoder. What fails
further in is then a matter of induction, and no proof about errors has to open the decoder again.
-/

namespace Schemata

/-- What a node other than a union can say about a value that it refuses itself. -/
inductive DecodeError.About : Value → DecodeError → Prop where
  /-- Null is refused as an absent value. -/
  | requiredValue : About .null .requiredValue
  /-- The kind that is reported is that of the value. -/
  | typeMismatch {value : Value} (expected : ValueKind) :
    About value (.typeMismatch expected value.kind)
  /-- A constraint is broken. -/
  | constraint {value : Value} (violation : Violation) : About value (.constraint violation)
  /-- The keys that are reported are keys of the object. -/
  | unexpectedKeys {input : Entries Value} {names : List String}
    (present : ∀ name ∈ names, name ∈ Entries.keys input) :
    About (.object input) (.unexpectedKeys names)
  /-- The object has no tag. -/
  | missingDiscriminator {input : Entries Value} {discriminator : String}
    (absent : Entries.get? discriminator input = none) :
    About (.object input) (.missingDiscriminator discriminator)
  /-- The object has a tag that no variant has. -/
  | unknownDiscriminator {input : Entries Value} {discriminator : String} {tag : Value}
    {known : List String} (tagged : Entries.get? discriminator input = some tag)
    (unknown : tag.toKey ∉ known) :
    About (.object input) (.unknownDiscriminator discriminator tag.toKey known)
  /-- No level is left. -/
  | depthExceeded {value : Value} (limit : Nat) : About value (.depthExceeded limit)

namespace DecodeError.About

variable {value : Value} {error : DecodeError}

theorem path_eq_nil (about : error.About value) : error.path = [] := by
  cases about <;> rfl

theorem cause_eq (about : error.About value) : error.cause = error := by
  cases about <;> rfl

end DecodeError.About

/-! ### Failing results -/

section Results

variable {α β : Type} {error : DecodeError} {result : Except DecodeError α}

theorem located_eq_error_iff {segment : PathSegment} :
    located segment result = .error error ↔
      ∃ inner, result = .error inner ∧ error = .within segment inner := by
  cases result <;> simp [located, eq_comm]

theorem map_eq_error_iff {f : α → β} : result.map f = .error error ↔ result = .error error := by
  cases result <;> simp [Except.map]

theorem nonNull_eq_error_iff {value : Value} :
    nonNull value result = .error error ↔
      (value = .null ∧ error = .requiredValue) ∨ (value ≠ .null ∧ result = .error error) := by
  rw [nonNull, ne_eq, ← Value.isNull_eq_true_iff]
  split <;> simp [*, eq_comm]

theorem unlessBroken_eq_error_iff {violation : Option Violation} :
    unlessBroken violation result = .error error ↔
      (∃ v, violation = some v ∧ error = .constraint v)
        ∨ (violation = none ∧ result = .error error) := by
  cases violation <;> simp [unlessBroken, eq_comm]

theorem deeper_eq_error_iff {references : References} {limit levels : Nat}
    {run : Decoder → Except DecodeError α} :
    deeper limit (decoderBelow references limit levels) run = .error error ↔
      (levels = 0 ∧ error = .depthExceeded limit)
        ∨ ∃ l, levels = l + 1 ∧ run (decodeAt references limit l) = .error error := by
  cases levels <;> simp [deeper, decoderBelow, eq_comm]

end Results

section Children

variable {error : DecodeError} {decoder : Decoder}

/-- Items fail where one of them does, at its index. -/
theorem decodeItems_eq_error {decode : Value → Except DecodeError Value} {start : Nat}
    {items : List Value} (failed : decodeItems decode start items = .error error) :
    ∃ i item inner, items[i]? = some item ∧ decode item = .error inner
      ∧ error = .within (.index (start + i)) inner := by
  induction items generalizing start with
  | nil => cases failed
  | cons item rest ih =>
    rw [decodeItems] at failed
    rcases bind_eq_error_iff.1 failed with here | ⟨_, -, later⟩
    · obtain ⟨inner, itemFailed, rfl⟩ := located_eq_error_iff.1 here
      exact ⟨0, item, inner, rfl, itemFailed, rfl⟩
    · rcases bind_eq_error_iff.1 later with restFailed | ⟨_, -, last⟩
      · obtain ⟨i, v, inner, found, itemFailed, rfl⟩ := ih restFailed
        exact ⟨i + 1, v, inner, by simpa using found, itemFailed, by rw [Nat.add_right_comm]; rfl⟩
      · cases last

/-- Elements fail where one of them does, at its position. -/
theorem decodeElements_eq_error {start : Nat} {nodes : List Node} {items : List Value}
    (failed : decodeElements decoder start nodes items = .error error) :
    ∃ i node item inner, nodes[i]? = some node ∧ items[i]? = some item
      ∧ decoder node item = .error inner ∧ error = .within (.position (start + i)) inner := by
  induction nodes generalizing start items with
  | nil => cases failed
  | cons node nodes ih =>
    cases items with
    | nil => cases failed
    | cons item rest =>
      rw [decodeElements] at failed
      rcases bind_eq_error_iff.1 failed with here | ⟨_, -, later⟩
      · obtain ⟨inner, itemFailed, rfl⟩ := located_eq_error_iff.1 here
        exact ⟨0, node, item, inner, rfl, rfl, itemFailed, rfl⟩
      · rcases bind_eq_error_iff.1 later with restFailed | ⟨_, -, last⟩
        · obtain ⟨i, n, v, inner, foundNode, found, itemFailed, rfl⟩ := ih restFailed
          exact ⟨i + 1, n, v, inner, by simpa using foundNode, by simpa using found, itemFailed,
            by rw [Nat.add_right_comm]; rfl⟩
        · cases last

/-- Fields fail where one of them does, or where one is absent that must be there. -/
theorem decodeFields_eq_error {input : Entries Value} {fields : List (String × Node)}
    (failed : decodeFields decoder input fields = .error error) :
    ∃ name node, (name, node) ∈ fields
      ∧ ((∃ raw inner, Entries.get? name input = some raw ∧ decoder node raw = .error inner
            ∧ error = .within (.field name) inner)
          ∨ (Entries.get? name input = none ∧ node.isOptional = false
            ∧ error = .within (.field name) .requiredValue)) := by
  induction fields with
  | nil => cases failed
  | cons field rest ih =>
    obtain ⟨name, node⟩ := field
    have later (restFailed : decodeFields decoder input rest = .error error) :=
      (ih restFailed).imp fun _ ↦ Exists.imp fun _ ↦
        And.imp_left (List.mem_cons_of_mem (name, node))
    cases found : Entries.get? name input with
    | some raw =>
      simp only [decodeFields, found] at failed
      rcases bind_eq_error_iff.1 failed with here | ⟨_, -, failed⟩
      · obtain ⟨inner, fieldFailed, rfl⟩ := located_eq_error_iff.1 here
        exact ⟨name, node, List.mem_cons_self, .inl ⟨raw, inner, found, fieldFailed, rfl⟩⟩
      · rcases bind_eq_error_iff.1 failed with restFailed | ⟨_, -, last⟩
        · exact later restFailed
        · cases last
    | none =>
      cases node with
      | optional place inner default =>
        cases default with
        | none => exact later (by simpa [decodeFields, found] using failed)
        | some default =>
          simp only [decodeFields, found] at failed
          rcases bind_eq_error_iff.1 failed with restFailed | ⟨_, -, last⟩
          · exact later restFailed
          · cases last
      | _ =>
        simp only [decodeFields, found, located, Except.error.injEq] at failed
        exact ⟨name, _, List.mem_cons_self, .inr ⟨found, rfl, failed.symm⟩⟩

/-- Entries fail where the key of one of them does, or its value after the key was accepted. -/
theorem decodeEntries_eq_error {key item : Node} {entries : List (String × Value)}
    (failed : decodeEntries decoder key item entries = .error error) :
    ∃ k value inner, (k, value) ∈ entries ∧ error = .within (.key k) inner
      ∧ (decoder key (.string k) = .error inner
          ∨ (∃ accepted, decoder key (.string k) = .ok accepted)
            ∧ decoder item value = .error inner) := by
  induction entries with
  | nil => cases failed
  | cons entry rest ih =>
    obtain ⟨k, value⟩ := entry
    rw [decodeEntries] at failed
    rcases bind_eq_error_iff.1 failed with here | ⟨accepted, okKey, failed⟩
    · obtain ⟨inner, keyFailed, rfl⟩ := located_eq_error_iff.1 here
      exact ⟨k, value, inner, List.mem_cons_self, rfl, .inl keyFailed⟩
    · rcases bind_eq_error_iff.1 failed with here | ⟨_, -, failed⟩
      · obtain ⟨inner, itemFailed, rfl⟩ := located_eq_error_iff.1 here
        exact ⟨k, value, inner, List.mem_cons_self, rfl,
          .inr ⟨⟨accepted, located_eq_ok_iff.1 okKey⟩, itemFailed⟩⟩
      · rcases bind_eq_error_iff.1 failed with restFailed | ⟨_, -, last⟩
        · obtain ⟨k', value', inner, member, rest⟩ := ih restFailed
          exact ⟨k', value', inner, List.mem_cons_of_mem _ member, rest⟩
        · cases last

/-- The members of a union fail all together, with the failure of each. -/
theorem decodeMembers_eq_error {references : References} {limit levels : Nat}
    {members : List Node} {value : Value} {failures : List DecodeError}
    (failed : decodeMembers references limit (decoderBelow references limit levels) members value =
      .error failures) :
    List.Forall₂ (fun member failure ↦
      decodeAt references limit levels member value = .error failure) members failures := by
  induction members generalizing failures with
  | nil =>
    cases failed
    exact .nil
  | cons member rest ih =>
    rw [decodeMembers] at failed
    split at failed
    · cases failed
    · next failure here =>
      split at failed
      · cases failed
      · next failures restFailed =>
        cases failed
        exact .cons (by rw [decodeAt_eq, here]) (ih restFailed)

end Children

/-! ### Visits -/

/-- A node set against a value, with some levels to go. -/
structure Visit where
  /-- The levels to go. -/
  levels : Nat
  /-- The node. -/
  node : Node
  /-- The value. -/
  value : Value

namespace Visit

variable {references : References} {limit : Nat}

/-- What the value of a visit decodes to. -/
def decode (references : References) (limit : Nat) (visit : Visit) : Except DecodeError Value :=
  decodeAt references limit visit.levels visit.node visit.value

/-- A visit hands its value, or a part of it, to another one, and what fails there is a failure of
its own, with some segments in front. Containers and references go one level deeper. The members of
a union have their failures collected instead. -/
inductive Step (references : References) (limit : Nat) :
    Visit → List PathSegment → Visit → Prop where
  /-- To an item of an array. -/
  | item {levels : Nat} {place : Option Place} {item : Node} {c : ArrayConstraints}
    {items : List Value} {i : Nat} {value : Value} (found : items[i]? = some value) :
    Step references limit ⟨levels + 1, .array place item c, .array items⟩ [.index i]
      ⟨levels, item, value⟩
  /-- To an element of a tuple. -/
  | element {levels : Nat} {place : Option Place} {elements : List Node} {items : List Value}
    {i : Nat} {node : Node} {value : Value} (foundNode : elements[i]? = some node)
    (found : items[i]? = some value) :
    Step references limit ⟨levels + 1, .tuple place elements, .array items⟩ [.position i]
      ⟨levels, node, value⟩
  /-- To a field of a struct. -/
  | field {levels : Nat} {place : Option Place} {fields : List (String × Node)}
    {extraKeys : ExtraKeys} {input : Entries Value} {name : String} {node : Node} {value : Value}
    (member : (name, node) ∈ fields) (found : Entries.get? name input = some value) :
    Step references limit ⟨levels + 1, .struct place fields extraKeys, .object input⟩
      [.field name] ⟨levels, node, value⟩
  /-- To the value of an entry of a record whose key was accepted. -/
  | entry {levels : Nat} {place : Option Place} {key item : Node} {input : Entries Value}
    {k : String} {value accepted : Value} (found : Entries.get? k input = some value)
    (okKey : decodeAt references limit levels key (.string k) = .ok accepted) :
    Step references limit ⟨levels + 1, .record place key item, .object input⟩ [.key k]
      ⟨levels, item, value⟩
  /-- To the variant of a discriminated union under the tag. -/
  | variant {levels : Nat} {place : Option Place} {discriminator : String}
    {variants : List (String × Node)} {input : Entries Value} {tag : Value} {variant : Node}
    (tagged : Entries.get? discriminator input = some tag)
    (found : Entries.get? tag.toKey variants = some variant) :
    Step references limit
      ⟨levels, .discriminatedUnion place discriminator variants, .object input⟩ []
      ⟨levels, variant, .object input⟩
  /-- To what is optional. -/
  | optional {levels : Nat} {place : Option Place} {inner : Node} {default : Option Value}
    {value : Value} (notNull : value ≠ .null) :
    Step references limit ⟨levels, .optional place inner default, value⟩ [] ⟨levels, inner, value⟩
  /-- To what is transformed. -/
  | transform {levels : Nat} {place : Option Place} {inner : Node} {target : String}
    {conversion : Conversion} {value : Value} :
    Step references limit ⟨levels, .transform place inner target conversion, value⟩ []
      ⟨levels, inner, value⟩
  /-- To what a reference stands for. -/
  | lazy {levels : Nat} {name : String} {reference : Place} {value : Value} :
    Step references limit ⟨levels + 1, .lazy name reference, value⟩ []
      ⟨levels, references.resolve reference, value⟩

/-- The ways in which a visit fails. -/
inductive Failure (references : References) (limit : Nat) : Visit → DecodeError → Prop where
  /-- The node refuses the value. -/
  | own {visit : Visit} {error : DecodeError} (about : error.About visit.value) :
    Failure references limit visit error
  /-- What the value is handed to fails. -/
  | step {visit next : Visit} {segments : List PathSegment} {error inner : DecodeError}
    (step : Step references limit visit segments next)
    (failed : next.decode references limit = .error inner)
    (path : error.path = segments ++ inner.path) (cause : error.cause = inner.cause) :
    Failure references limit visit error
  /-- A field is absent that must be there. -/
  | absent {levels : Nat} {place : Option Place} {fields : List (String × Node)}
    {extraKeys : ExtraKeys} {input : Entries Value} {name : String} {node : Node}
    (member : (name, node) ∈ fields) (required : node.isOptional = false)
    (missing : Entries.get? name input = none) :
    Failure references limit ⟨levels + 1, .struct place fields extraKeys, .object input⟩
      (.within (.field name) .requiredValue)
  /-- The key of an entry is refused. -/
  | key {levels : Nat} {place : Option Place} {key item : Node} {input : Entries Value}
    {k : String} {error : DecodeError} (among : k ∈ Entries.keys input)
    (rejected : decodeAt references limit levels key (.string k) = .error error) :
    Failure references limit ⟨levels + 1, .record place key item, .object input⟩
      (.within (.key k) error)
  /-- Every member of a union fails. -/
  | members {levels : Nat} {place : Option Place} {members : List Node} {value : Value}
    {failures : List DecodeError}
    (each : List.Forall₂ (fun member failure ↦
      decodeAt references limit levels member value = .error failure) members failures) :
    Failure references limit ⟨levels, .union place members, value⟩ (.unionMismatch failures)

section Kinds

variable {levels : Nat} {place : Option Place} {value : Value} {error : DecodeError}

/-- A visit that may refuse null fails so, or on another value. -/
private theorem failure_of_nonNull {node : Node} {result : Except DecodeError Value}
    (failed : nonNull value result = .error error)
    (other : value ≠ .null → result = .error error →
      Failure references limit ⟨levels, node, value⟩ error) :
    Failure references limit ⟨levels, node, value⟩ error := by
  rcases nonNull_eq_error_iff.1 failed with ⟨rfl, rfl⟩ | ⟨notNull, failed⟩
  · exact .own .requiredValue
  · exact other notNull failed

private theorem failure_of_mismatch {node : Node} {expected : ValueKind}
    (failed : (mismatch expected value : Except DecodeError Value) = .error error) :
    Failure references limit ⟨levels, node, value⟩ error := by
  cases failed
  exact .own (.typeMismatch expected)

private theorem failure_of_unlessBroken {node : Node} {violation : Option Violation}
    {decoded : Value} (failed : unlessBroken violation (.ok decoded) = .error error) :
    Failure references limit ⟨levels, node, value⟩ error := by
  rcases unlessBroken_eq_error_iff.1 failed with ⟨v, -, rfl⟩ | ⟨-, failed⟩
  · exact .own (.constraint v)
  · cases failed

private theorem failure_of_array {item : Node} {c : ArrayConstraints}
    (failed : decodeArray limit (decoderBelow references limit levels) item c value =
      .error error) : Failure references limit ⟨levels, .array place item c, value⟩ error := by
  cases value with
  | array items =>
    rw [decodeArray] at failed
    rcases unlessBroken_eq_error_iff.1 failed with ⟨v, -, rfl⟩ | ⟨-, failed⟩
    · exact .own (.constraint v)
    · rcases deeper_eq_error_iff.1 failed with ⟨-, rfl⟩ | ⟨l, rfl, failed⟩
      · exact .own (.depthExceeded limit)
      · obtain ⟨i, v, inner, found, itemFailed, rfl⟩ :=
          decodeItems_eq_error (map_eq_error_iff.1 failed)
        exact .step (.item found) itemFailed (by simp) (by simp)
  | _ => exact failure_of_mismatch failed

private theorem failure_of_tuple {elements : List Node}
    (failed : decodeTuple limit (decoderBelow references limit levels) elements value =
      .error error) : Failure references limit ⟨levels, .tuple place elements, value⟩ error := by
  cases value with
  | array items =>
    rw [decodeTuple] at failed
    split at failed
    · rcases deeper_eq_error_iff.1 failed with ⟨-, rfl⟩ | ⟨l, rfl, failed⟩
      · exact .own (.depthExceeded limit)
      · obtain ⟨i, node, v, inner, foundNode, found, itemFailed, rfl⟩ :=
          decodeElements_eq_error (map_eq_error_iff.1 failed)
        exact .step (.element foundNode found) itemFailed (by simp) (by simp)
    · cases failed
      exact .own (.constraint _)
  | _ => exact failure_of_mismatch failed

private theorem failure_of_struct {fields : List (String × Node)} {extraKeys : ExtraKeys}
    (failed : decodeStruct limit (decoderBelow references limit levels) fields extraKeys value =
      .error error) :
    Failure references limit ⟨levels, .struct place fields extraKeys, value⟩ error := by
  cases value with
  | object input =>
    rw [decodeStruct] at failed
    split at failed
    · cases failed
      refine .own (.unexpectedKeys fun name member ↦ ?_)
      obtain ⟨entry, inExtra, rfl⟩ := List.mem_map.1 member
      exact Entries.mem_keys (List.mem_filter.1 inExtra).1
    · rcases deeper_eq_error_iff.1 failed with ⟨-, rfl⟩ | ⟨l, rfl, failed⟩
      · exact .own (.depthExceeded limit)
      · rcases bind_eq_error_iff.1 failed with failed | ⟨_, -, last⟩
        · obtain ⟨name, node, member, here⟩ := decodeFields_eq_error failed
          rcases here with ⟨raw, inner, found, fieldFailed, rfl⟩ | ⟨missing, required, rfl⟩
          · exact .step (.field member found) fieldFailed (by simp) (by simp)
          · exact .absent member required missing
        · cases last
  | _ => exact failure_of_mismatch failed

private theorem failure_of_record {key item : Node} (formed : value.WellFormed)
    (failed : decodeRecord limit (decoderBelow references limit levels) key item value =
      .error error) : Failure references limit ⟨levels, .record place key item, value⟩ error := by
  cases value with
  | object input =>
    have distinct := (Value.wellFormed_object_iff.1 formed).1
    rw [decodeRecord] at failed
    rcases deeper_eq_error_iff.1 failed with ⟨-, rfl⟩ | ⟨l, rfl, failed⟩
    · exact .own (.depthExceeded limit)
    · obtain ⟨k, v, inner, member, rfl, keyFailed | ⟨⟨accepted, okKey⟩, itemFailed⟩⟩ :=
        decodeEntries_eq_error (map_eq_error_iff.1 failed)
      · exact .key (Entries.mem_keys member) keyFailed
      · exact .step (.entry (Entries.get?_eq_some_of_mem distinct member) okKey) itemFailed
          (by simp) (by simp)
  | _ => exact failure_of_mismatch failed

private theorem failure_of_discriminatedUnion {discriminator : String}
    {variants : List (String × Node)} (notNull : value ≠ .null)
    (failed : decodeAt references limit levels (.discriminatedUnion place discriminator variants)
      value = .error error) :
    Failure references limit ⟨levels, .discriminatedUnion place discriminator variants, value⟩
      error := by
  rw [decodeAt_eq] at failed
  cases value with
  | null => exact absurd rfl notNull
  | object input =>
    cases tagged : Entries.get? discriminator input with
    | none =>
      simp only [decodeNode, nonNull, Value.isNull, tagged] at failed
      cases failed
      exact .own (.missingDiscriminator tagged)
    | some tag =>
      cases found : Entries.get? tag.toKey variants with
      | none =>
        simp only [decodeNode, nonNull, Value.isNull, tagged, decodeVariant_eq, found] at failed
        cases failed
        exact .own (.unknownDiscriminator tagged (Entries.get?_eq_none_iff.1 found))
      | some variant =>
        simp only [decodeNode, nonNull, Value.isNull, tagged, decodeVariant_eq, found,
          ← decodeAt_eq] at failed
        exact .step (.variant tagged found) failed rfl rfl
  | _ => exact failure_of_mismatch failed

/-- A visit that fails fails in one of these ways. -/
theorem failure_of_decode {visit : Visit} (formed : visit.value.WellFormed)
    (failed : visit.decode references limit = .error error) :
    Failure references limit visit error := by
  obtain ⟨levels, node, value⟩ := visit
  have here := failed
  rw [decode, decodeAt_eq] at here
  cases node with
  | string type =>
    refine failure_of_nonNull here fun _ failed ↦ ?_
    cases value with
    | string => exact failure_of_unlessBroken failed
    | _ => exact failure_of_mismatch failed
  | number c =>
    refine failure_of_nonNull here fun _ failed ↦ ?_
    cases value with
    | number => exact failure_of_unlessBroken failed
    | _ => exact failure_of_mismatch failed
  | integer c =>
    refine failure_of_nonNull here fun _ failed ↦ ?_
    cases value with
    | number n =>
      rw [NumericConstraints.decodeInteger] at failed
      split at failed
      · exact failure_of_unlessBroken failed
      · exact failure_of_mismatch failed
    | _ => exact failure_of_mismatch failed
  | boolean =>
    refine failure_of_nonNull here fun _ failed ↦ ?_
    cases value with
    | bool => cases failed
    | _ => exact failure_of_mismatch failed
  | null =>
    cases value with
    | null => cases here
    | _ => exact failure_of_mismatch here
  | symbol =>
    refine failure_of_nonNull here fun _ failed ↦ ?_
    cases value with
    | string | symbol => cases failed
    | _ => exact failure_of_mismatch failed
  | literal type =>
    refine failure_of_nonNull here fun _ failed ↦ ?_
    rw [LiteralType.decode] at failed
    split at failed
    · cases failed
    · cases failed
      exact .own (.constraint _)
  | array => exact failure_of_nonNull here fun _ ↦ failure_of_array
  | tuple => exact failure_of_nonNull here fun _ ↦ failure_of_tuple
  | struct => exact failure_of_nonNull here fun _ ↦ failure_of_struct
  | record => exact failure_of_nonNull here fun _ ↦ failure_of_record formed
  | union place members =>
    rw [decodeNode] at here
    split at here
    · cases here
    · next failures membersFailed =>
      cases here
      exact .members (decodeMembers_eq_error membersFailed)
  | discriminatedUnion =>
    exact failure_of_nonNull here fun notNull _ ↦ failure_of_discriminatedUnion notNull failed
  | optional place inner default =>
    rw [decodeNode] at here
    split at here
    · cases here
    · next notNull =>
      rw [Value.isNull_eq_true_iff] at notNull
      rw [← decodeAt_eq] at here
      exact .step (.optional notNull) here rfl rfl
  | transform =>
    rw [decodeNode, map_eq_error_iff, ← decodeAt_eq] at here
    exact .step .transform here rfl rfl
  | lazy =>
    rcases deeper_eq_error_iff.1 here with ⟨-, rfl⟩ | ⟨l, rfl, failed⟩
    · exact .own (.depthExceeded limit)
    · exact .step .lazy failed rfl rfl

end Kinds

end Visit

end Schemata
