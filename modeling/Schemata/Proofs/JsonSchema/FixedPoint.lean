import Schemata.Proofs.JsonSchema.Importing
import Schemata.Proofs.JsonSchema.RoundTrip
import Schemata.Proofs.Schema.Describing
import Schemata.Proofs.Schema.Redescribing

/-!
# One trip through JSON Schema reaches a fixed point

What JSON Schema has no words for is lost on the way, but the document does not show the loss: it is
also the document of a description that JSON Schema can express (`Ast.Expresses`), and so of the one
that is read from it. Without discriminated unions the document is always read; with them it may
not be, because the alternatives do not name their discriminator, and then all that is known of the
parts comes from the whole having been read (`Ast.Readable`).
-/

namespace Schemata

namespace JsonSchema

/-! ### Schemas in general -/

/-- The members of the schema of any description: no key is repeated, and where a single type is
named, nothing is decided before it. -/
structure Sound (ms : Entries Json) : Prop where
  /-- No key is repeated. -/
  distinct : Entries.Distinct ms
  /-- The type decides. -/
  free : ∀ type, Entries.get? "type" ms = some (.string type) →
    ∀ key ∈ deciding, Entries.get? key ms = none

private theorem Sound.typed {type : String} {rest : Entries Json}
    (keys : (Entries.keys rest).Sublist typeKeywords) : Sound (typed type rest) where
  distinct := (by decide : ("type" :: typeKeywords).Nodup).sublist (keys.cons_cons "type")
  free _ _ := get?_deciding keys

/-- A schema without a single type. -/
private theorem Sound.single {key : String} (notType : key ≠ "type") (doc : Json) :
    Sound [(key, doc)] where
  distinct := by simp [Entries.Distinct]
  free type named := by simp [Entries.get?_cons, notType] at named

private theorem Sound.insert {ms : Entries Json} (sound : Sound ms) {key : String} {doc : Json}
    (counts : key ∉ deciding) (type : key = "type" → ∀ type, doc ≠ .string type) :
    Sound (Entries.insert key doc ms) where
  distinct := sound.distinct.insert key doc
  free name named other member := by
    have ne : other ≠ key := fun eq ↦ counts (eq ▸ member)
    rw [Entries.get?_insert_of_ne ne]
    by_cases same : key = "type"
    · subst same
      rw [Entries.get?_insert_self] at named
      exact absurd (Option.some.inj named) (type rfl name)
    · rw [Entries.get?_insert_of_ne (Ne.symm same)] at named
      exact sound.free name named other member

theorem sound_membersOf (ast : Ast) : Sound (membersOf ast) := by
  induction ast using Ast.induction with
  | step ast ih =>
    cases ast with
    | string c =>
      obtain ⟨rest, typed⟩ := typed_string c
      rw [typed.members]
      exact .typed typed.keys
    | number c => exact .typed (keys_numeric c)
    | integer c => exact .typed (keys_numeric c)
    | boolean | null | symbol => exact .typed (List.nil_sublist _)
    | literal values =>
      match values with
      | [] => exact .single (by decide) _
      | [_] => exact .single (by decide) _
      | _ :: _ :: _ => exact .single (by decide) _
    | array item c =>
      obtain ⟨rest, typed⟩ := typed_array item c
      rw [typed.members]
      exact .typed typed.keys
    | tuple => exact .typed (by decide : ["prefixItems", "minItems", "maxItems"].Sublist _)
    | struct =>
      exact .typed (by decide : ["properties", "required", "additionalProperties"].Sublist _)
    | record => exact .typed (by decide : ["additionalProperties"].Sublist _)
    | union members =>
      have widened {member : Ast} (among : member ∈ members) {wide : Entries Json}
          (widens : nullable? (.object (membersOf member)) = some wide) : Sound wide := by
        obtain ⟨type, -, rfl⟩ := nullable?_eq_some_iff.1 widens
        exact (ih member among).insert (by decide) (by simp)
      rcases membersOf_union_cases members with
        ⟨first, second, wide, rfl, -, -, widens, eq⟩
        | ⟨first, second, wide, rfl, -, -, widens, eq⟩ | eq
      · exact eq ▸ widened (by simp) widens
      · exact eq ▸ widened (by simp) widens
      · exact eq ▸ .single (by decide) _
    | discriminatedUnion => exact .single (by decide) _
    | optional inner default =>
      have inside := ih inner (by simp [Ast.children])
      cases default with
      | none => exact inside
      | some => exact inside.insert (by decide) (by simp)
    | transform inner => exact ih inner (by simp [Ast.children])
    | lazy name kind =>
      constructor
      · have keys : (Entries.keys (membersOf (.lazy name kind none))).Sublist
            ["type", "description"] := by
          rw [membersOf, stubMembers, Entries.keys_append]
          exact (keys_memberOf_sublist _ _ _).append (List.Sublist.refl _)
        exact (by decide : ["type", "description"].Nodup).sublist keys
      · intro type _ key member
        have others : key ≠ "type" ∧ key ≠ "description" := by
          revert key
          decide
        rw [membersOf, stubMembers, Entries.get?_append, get?_memberOf, if_neg (Ne.symm others.1)]
        simp [Entries.get?_cons, Ne.symm others.2]

theorem variantSchemas_eq_schemasOf (variants : Entries Ast) :
    variantSchemas variants = schemasOf (Entries.values variants) := by
  rw [variantSchemas_eq, schemasOf_eq, Entries.values, List.map_map]
  rfl

/-- The document of a description without metadata is its schema. -/
theorem toJsonSchema_eq (ast : Ast) : ast.toJsonSchema = .object (membersOf ast) :=
  congrArg Json.object (Entries.ofList_of_distinct (sound_membersOf ast).distinct)

/-- The document of a description reads as its schema, whatever the metadata. -/
theorem read_toJsonSchema (ast : Ast) (metadata : Metadata) :
    read (ast.toJsonSchema metadata) = read (.object (membersOf ast)) :=
  read_foldl_metadata (sound_membersOf ast).distinct metadata

end JsonSchema

namespace Ast

open JsonSchema

/-! ### Descriptions without references -/

/-- A struct one of whose fields holds a single constant. -/
def HasConstant (ast : Ast) : Prop :=
  ∃ fields required extraKeys name value, ast = .struct fields required extraKeys
    ∧ (name, .literal [value]) ∈ fields

/-- A node of the description of a schema without references. -/
def Described : Ast → Prop
  | .literal values => values ≠ [] ∧ ∀ value ∈ values, value.SymbolFree
  | .struct fields required _ => Entries.Distinct fields ∧ required = requiredNames fields
  | .discriminatedUnion _ variants =>
    variants ≠ [] ∧ ∀ variant ∈ Entries.values variants, variant.HasConstant
  | .lazy _ _ _ => False
  | _ => True

/-- Below a node only the fields of a struct are optional. -/
def OptionalFieldsOnly (ast : Ast) : Prop :=
  ast.kind ≠ .struct → ∀ child ∈ ast.children, child.isOptional = false

/-- A description without its outermost mark that it may be absent. -/
def core : Ast → Ast
  | .optional inner _ => inner
  | ast => ast

theorem core_eq_self {ast : Ast} (notOptional : ast.isOptional = false) : ast.core = ast := by
  cases ast with
  | optional => cases notOptional
  | _ => rfl

theorem Representable.isOptional {ast : Ast} (h : ast.Representable) : ast.isOptional = false := by
  cases h <;> rfl

/-- A default does not change how a schema is read. -/
theorem read_core (ast : Ast) :
    JsonSchema.read (.object (membersOf ast.core)) = JsonSchema.read (.object (membersOf ast)) := by
  cases ast with
  | optional inner default =>
    cases default with
    | none => rfl
    | some default =>
      refine JsonSchema.read_congr fun key counts ↦ ?_
      exact (Entries.get?_insert_of_ne (fun eq ↦ counts (by simp [eq, annotations])) _ _).symm
  | _ => rfl

/-- The parts directly below a description that have schemas of their own: the keys of a record have
none. -/
def written : Ast → List Ast
  | .record _ value => [value]
  | ast => ast.children

theorem mem_children_of_mem_written {ast part : Ast} (member : part ∈ ast.written) :
    part ∈ ast.children := by
  cases ast with
  | record => exact List.mem_cons_of_mem _ member
  | _ => exact member

/-! ### Parts of what is read -/

/-- A description that has no discriminated union, or whose schema is read all the same. -/
def Readable (ast : Ast) : Prop :=
  ast.All (fun part ↦ part.kind ≠ .discriminatedUnion)
    ∨ ∃ b, JsonSchema.read (.object (membersOf ast)) = .ok b

theorem Readable.core {ast : Ast} (readable : ast.Readable) : ast.core.Readable := by
  rcases readable with plain | reads
  · refine .inl ?_
    cases ast with
    | optional inner => exact plain.child (List.mem_singleton.2 rfl)
    | _ => exact plain
  · exact .inr ((read_core ast).symm ▸ reads)

private theorem readPlan_of_read {ms : Entries Json} {plan : Plan} {b : Ast}
    (planned : planOf ms = .ok plan) (ok : JsonSchema.read (.object ms) = .ok b) :
    readPlan ms plan = .ok b := by
  rw [read_object, planned] at ok
  exact ok

private theorem exists_read_of_readList {asts : List Ast} {bs : List Ast}
    (ok : readList (schemasOf asts) = .ok bs) :
    ∀ ast ∈ asts, ∃ b, JsonSchema.read (.object (membersOf ast)) = .ok b := by
  intro ast member
  obtain ⟨b, -, here⟩ := forall₂_exists_of_mem (forall₂_of_schemasOf ok) member
  exact ⟨b, here⟩

/-- The schema of null reads as null. -/
theorem read_of_isNull {ast : Ast} (isNull : IsNull ast) :
    JsonSchema.read (.object (membersOf ast)) = .ok .null := by
  rw [IsNull, isNullSchema.eq_def] at isNull
  split at isNull
  · next key type eq =>
    obtain ⟨rfl, rfl⟩ : key = "type" ∧ type = "null" := by simpa using isNull
    rw [eq]
    rfl
  · cases isNull

/-- A union that is read lists what its members read as, or the one of two that is not null and
null after it. -/
theorem read_union_cases {members : List Ast} {b : Ast}
    (ok : JsonSchema.read (.object (membersOf (.union members))) = .ok b) :
    ∃ bs, b = .union bs ∧ ∀ member ∈ members, ∃ b' ∈ bs,
      JsonSchema.read (.object (membersOf member)) = .ok b' := by
  have widened {member : Ast} {wide : Entries Json}
      (widens : nullable? (.object (membersOf member)) = some wide)
      (eq : membersOf (.union members) = wide) :
      ∃ b', JsonSchema.read (.object (membersOf member)) = .ok b' ∧ b = .union [b', .null] := by
    obtain ⟨type, named, rfl⟩ := nullable?_eq_some_iff.1 widens
    rw [eq] at ok
    exact exists_read_of_widened ((sound_membersOf member).free type named) named ok
  rcases membersOf_union_cases members with
    ⟨first, second, wide, rfl, isNull, -, widens, eq⟩
    | ⟨first, second, wide, rfl, isNull, -, widens, eq⟩ | eq
  · obtain ⟨b', ok', rfl⟩ := widened widens eq
    exact ⟨_, rfl, by simpa using ⟨.inr (read_of_isNull isNull), .inl ok'⟩⟩
  · obtain ⟨b', ok', rfl⟩ := widened widens eq
    exact ⟨_, rfl, by simpa using ⟨.inl ok', .inr (read_of_isNull isNull)⟩⟩
  · rw [eq, read_anyOf] at ok
    obtain ⟨bs, okList, rfl⟩ := map_eq_ok_iff.1 ok
    exact ⟨bs, rfl, fun member among ↦ forall₂_exists_of_mem (forall₂_of_schemasOf okList) among⟩

theorem Readable.part {ast part : Ast} (readable : ast.Readable)
    (notOptional : ast.isOptional = false) (member : part ∈ ast.written) : part.Readable := by
  rcases readable with plain | ⟨b, ok⟩
  · exact .inl (plain.child (mem_children_of_mem_written member))
  refine .inr ?_
  cases ast with
  | array item c =>
    obtain rfl := List.mem_singleton.1 member
    rw [read_array] at ok
    obtain ⟨b, okItem, -⟩ := map_eq_ok_iff.1 ok
    exact ⟨b, okItem⟩
  | tuple elements =>
    rw [read_tuple] at ok
    obtain ⟨bs, okList, -⟩ := map_eq_ok_iff.1 ok
    exact exists_read_of_readList okList part member
  | struct fields required extraKeys =>
    rw [read_struct] at ok
    obtain ⟨bs, okFields, -⟩ := map_eq_ok_iff.1 ok
    obtain ⟨field, among, rfl⟩ := List.mem_map.1 member
    obtain ⟨_, -, -, b, okField, -⟩ :=
      forall₂_exists_of_mem (forall₂_of_propertiesOf okFields) among
    exact ⟨b, okField⟩
  | record key value =>
    obtain rfl := List.mem_singleton.1 member
    rw [read_record] at ok
    obtain ⟨b, okValue, -⟩ := map_eq_ok_iff.1 ok
    exact ⟨b, okValue⟩
  | union members =>
    obtain ⟨bs, -, each⟩ := read_union_cases ok
    obtain ⟨b, -, okMember⟩ := each part member
    exact ⟨b, okMember⟩
  | discriminatedUnion discriminator variants =>
    obtain ⟨bs, okList, -⟩ := bind_eq_ok_iff.1 (readPlan_of_read rfl ok)
    rw [readListUnder_eq] at okList
    have okList : readList (variantSchemas variants) = .ok bs := okList
    rw [variantSchemas_eq_schemasOf] at okList
    exact exists_read_of_readList okList part member
  | optional => cases notOptional
  | transform inner =>
    obtain rfl := List.mem_singleton.1 member
    exact ⟨b, ok⟩
  | _ => cases member

/-! ### What a document expresses -/

/-- A description that JSON Schema can express has the same schema as another one. -/
structure Expresses (ast b : Ast) : Prop where
  /-- The second can be expressed. -/
  representable : b.Representable
  /-- The schemas are the same. -/
  members : membersOf b = membersOf ast
  /-- Constants stay. -/
  literal : ∀ values, ast = .literal values → b = ast
  /-- A struct with a constant stays one. -/
  constant : ast.HasConstant → b.HasConstant

/-- A description whose schema does not show a constant below it. -/
private theorem Expresses.of_kind {ast b : Ast} (representable : b.Representable)
    (members : membersOf b = membersOf ast) (plain : ast.kind ≠ .literal ∧ ast.kind ≠ .struct) :
    ast.Expresses b where
  representable := representable
  members := members
  literal values eq := by simp [eq, kind] at plain
  constant has := by
    obtain ⟨fields, required, extraKeys, name, value, rfl, -⟩ := has
    exact absurd rfl plain.2

theorem Expresses.read {ast b : Ast} (expresses : ast.Expresses b) :
    JsonSchema.read (.object (membersOf ast)) = .ok b :=
  expresses.members ▸ read_membersOf expresses.representable

theorem schemasOf_congr {asts bs : List Ast} (each : List.Forall₂ Expresses asts bs) :
    schemasOf bs = schemasOf asts := by
  induction each with
  | nil => rfl
  | cons head _ ih => rw [schemasOf, schemasOf, head.members, ih]

private theorem representable_of_forall₂ {asts bs : List Ast}
    (each : List.Forall₂ Expresses asts bs) : ∀ b ∈ bs, b.Representable := by
  intro b member
  obtain ⟨ast, -, expresses⟩ := forall₂_exists_of_mem each.flip member
  exact expresses.representable

/-! ### Structs -/

/-- The field with another description below its mark that it may be absent. -/
private def withCore (b : Ast) : Ast → Ast
  | .optional _ default => .optional b (default.map fun value ↦ .ofJson value.toJson)
  | _ => b

private theorem membersOf_withCore {ast b : Ast} (members : membersOf b = membersOf ast.core) :
    membersOf (withCore b ast) = membersOf ast := by
  cases ast with
  | optional inner default =>
    cases default with
    | none => exact members
    | some value =>
      show Entries.insert "default" (Value.ofJson value.toJson).toJson (membersOf b) = _
      rw [Value.toJson_ofJson, members]
      rfl
  | _ => exact members

private theorem isOptional_withCore {ast b : Ast} (notOptional : b.isOptional = false) :
    (withCore b ast).isOptional = ast.isOptional := by
  cases ast <;> first | rfl | exact notOptional

private theorem optional_of_withCore {ast b inner : Ast} {default : Option Value}
    (notOptional : b.isOptional = false) (eq : .optional inner default = withCore b ast) :
    inner = b ∧ ∀ value, default = some value → value.SymbolFree := by
  cases ast with
  | optional _ given =>
    cases eq
    refine ⟨rfl, fun value made ↦ ?_⟩
    obtain ⟨source, -, rfl⟩ := Option.map_eq_some_iff.1 made
    exact Value.symbolFree_ofJson _
  | _ =>
    obtain rfl : Ast.optional inner default = b := eq
    cases notOptional

/-- Fields with the same schemas, below which there is something that can be expressed. -/
private def FieldExpresses (field field' : String × Ast) : Prop :=
  field.1 = field'.1 ∧ ∃ b, field.2.core.Expresses b ∧ field'.2 = withCore b field.2

private theorem requiredNames_expressed {fields fields' : Entries Ast}
    (each : List.Forall₂ FieldExpresses fields fields') :
    Entries.keys fields' = Entries.keys fields ∧ requiredNames fields' = requiredNames fields
      ∧ propertiesOf fields' = propertiesOf fields := by
  induction each with
  | nil => exact ⟨rfl, rfl, rfl⟩
  | @cons field field' _ _ head _ ih =>
    obtain ⟨name, ast⟩ := field
    obtain ⟨_, ast'⟩ := field'
    obtain ⟨rfl, b, expresses, rfl⟩ := head
    obtain ⟨keys, required, properties⟩ := ih
    have optional := @isOptional_withCore ast b expresses.representable.isOptional
    refine ⟨congrArg (name :: ·) keys, ?_, ?_⟩
    · rw [requiredNames, requiredNames] at required ⊢
      simp only [List.filter_cons, optional]
      split
      · rw [List.map_cons, List.map_cons, required]
      · exact required
    · rw [propertiesOf, propertiesOf, membersOf_withCore expresses.members, properties]

/-- A policy that JSON Schema can express. -/
private def expressedPolicy : ExtraKeys → ExtraKeys
  | .reject => .reject
  | _ => .allow

private theorem expresses_struct {fields fields' : Entries Ast} (extraKeys : ExtraKeys)
    (distinct : Entries.Distinct fields) (each : List.Forall₂ FieldExpresses fields fields') :
    (Ast.struct fields (requiredNames fields) extraKeys).Expresses
      (.struct fields' (requiredNames fields') (expressedPolicy extraKeys)) := by
  obtain ⟨keys, required, properties⟩ := requiredNames_expressed each
  have distinct' : Entries.Distinct fields' := by rwa [Entries.Distinct, keys]
  have source {name : String} {ast' : Ast} (member : (name, ast') ∈ fields') :
      ∃ ast b, (name, ast) ∈ fields ∧ ast.core.Expresses b ∧ ast' = withCore b ast := by
    obtain ⟨⟨_, ast⟩, among, rfl, b, expresses, eq⟩ := forall₂_exists_of_mem each.flip member
    exact ⟨ast, b, among, expresses, eq⟩
  refine ⟨.struct distinct' ?_ ?_ ?_ ?_, ?_, (by simp), ?_⟩
  · cases extraKeys <;> decide
  · intro name ast' member notOptional
    obtain ⟨ast, b, -, expresses, rfl⟩ := source member
    cases ast with
    | optional => cases notOptional
    | _ => exact expresses.representable
  · intro name inner default member
    obtain ⟨ast, b, -, expresses, eq⟩ := source member
    obtain ⟨rfl, -⟩ := optional_of_withCore expresses.representable.isOptional eq
    exact expresses.representable
  · intro name inner default member
    obtain ⟨ast, b, -, expresses, eq⟩ := source member
    exact (optional_of_withCore expresses.representable.isOptional eq).2 default rfl
  · rw [membersOf, membersOf, required, properties]
    cases extraKeys <;> rfl
  · rintro ⟨_, _, _, name, value, eq, member⟩
    cases eq
    obtain ⟨⟨_, ast'⟩, among, rfl, b, expresses, eq⟩ := forall₂_exists_of_mem each member
    obtain rfl : b = .literal [value] := expresses.literal [value] rfl
    obtain rfl : ast' = .literal [value] := eq
    exact ⟨_, _, _, name, value, rfl, among⟩

/-! ### Unions -/

private theorem Expresses.isNull_iff {ast b : Ast} (expresses : ast.Expresses b) :
    IsNull ast ↔ b = .null := by
  rw [← JsonSchema.isNull_iff expresses.representable, IsNull, IsNull, expresses.members]

/-- A member whose type a union widens by null stands first among two. -/
private theorem exists_expresses_widened {members : List Ast} {member b : Ast}
    (expresses : member.Expresses b) (notNull : ¬IsNull member) {wide : Entries Json}
    (widens : nullable? (.object (membersOf member)) = some wide)
    (eq : membersOf (.union members) = wide) : ∃ b, (Ast.union members).Expresses b := by
  have notNull : b ≠ .null := fun null ↦ notNull (expresses.isNull_iff.2 null)
  have notNullSchema : isNullSchema (.object (membersOf b)) = false := by
    simpa [IsNull] using mt (JsonSchema.isNull_iff expresses.representable).1 notNull
  refine ⟨.union [b, .null], .of_kind (.union ?_ ?_) ?_ (by simp [kind])⟩
  · simpa using ⟨expresses.representable, .null⟩
  · intro second type same
    exact absurd (List.cons.inj same).1 notNull
  · have null : isNullSchema (.object (membersOf .null)) = true := rfl
    have widened : nullable? (.object (membersOf b)) = some wide := by
      rw [expresses.members, widens]
    rw [eq, membersOf, schemasOf, schemasOf, schemasOf, unionMembers]
    simp [null, notNullSchema, widened]

private theorem exists_expresses_union {members bs : List Ast}
    (each : List.Forall₂ Expresses members bs) : ∃ b, (Ast.union members).Expresses b := by
  rcases membersOf_union_cases members with
    ⟨first, second, wide, rfl, -, notNull, widens, eq⟩
    | ⟨first, second, wide, rfl, -, notNull, widens, eq⟩ | eq
  · obtain ⟨b, b', -, expresses, rfl⟩ := forall₂_pair_left each
    exact exists_expresses_widened expresses notNull widens eq
  · obtain ⟨b, b', expresses, -, rfl⟩ := forall₂_pair_left each
    exact exists_expresses_widened expresses notNull widens eq
  · have same : membersOf (.union bs) = membersOf (.union members) := by
      rw [membersOf, membersOf, schemasOf_congr each]
    refine ⟨.union bs, .of_kind (.union (representable_of_forall₂ each) ?_) same
      (by simp [kind])⟩
    rintro second type rfl named
    -- Otherwise the second member would have been widened, and nothing been listed.
    by_contra notNull
    have representable := representable_of_forall₂ each second (by simp)
    have isNull : isNullSchema (.object (membersOf second)) = false := by
      simpa [IsNull] using mt (JsonSchema.isNull_iff representable).1 notNull
    have null : isNullSchema (.object (membersOf .null)) = true := rfl
    have widened := nullable?_eq_some_iff.2 ⟨type, named, rfl⟩
    rw [eq, membersOf, schemasOf, schemasOf, schemasOf, unionMembers] at same
    simp only [null, isNull, widened] at same
    have typeOf := congrArg (Entries.get? "type") same
    simp [Entries.get?_insert_self, Entries.get?_cons] at typeOf

/-! ### Discriminated unions -/

/-- Alternatives that have a constant keep their own tags. -/
private theorem values_variantsOf {discriminator : String} {asts : List Ast}
    {tags : List (Option String)} {variants : Entries Ast}
    (fit : List.Forall₂ (fun ast tag? ↦ ∃ fields required extraKeys,
      ast = .struct fields required extraKeys
        ∧ tagOf? fields = tag?.map (Prod.mk discriminator)) asts tags)
    (constant : ∀ ast ∈ asts, ast.HasConstant)
    (made : List.Forall₂ (fun source variant ↦
        (source.2 = some variant.1 ∧ variant.2 = source.1)
          ∨ (source.2 = none ∧ variant.2 = withTag discriminator variant.1 source.1))
      (asts.zip tags) variants) :
    Entries.values variants = asts ∧ ∀ tag variant, (tag, variant) ∈ variants →
      ∃ fields required extraKeys, variant = .struct fields required extraKeys
        ∧ tagOf? fields = some (discriminator, tag) := by
  induction fit generalizing variants with
  | nil =>
    cases made
    exact ⟨rfl, by simp⟩
  | @cons ast tag? _ _ head _ ih =>
    cases made with
    | @cons _ variant _ _ made rest =>
      obtain ⟨constantHere, constantRest⟩ := List.forall_mem_cons.1 constant
      obtain ⟨values, tagged⟩ := ih constantRest rest
      obtain ⟨fields, required, extraKeys, rfl, found⟩ := head
      obtain ⟨_, _, _, name, value, eq, member⟩ := constantHere
      cases eq
      have notNone := tagOf?_ne_none member
      obtain ⟨tag, variant⟩ := variant
      rcases made with ⟨tagHere, same⟩ | ⟨untagged, -⟩
      · obtain rfl : tag? = some tag := tagHere
        obtain rfl : variant = .struct fields required extraKeys := same
        refine ⟨congrArg (_ :: ·) values, fun other variant among ↦ ?_⟩
        rcases List.mem_cons.1 among with eq | later
        · cases eq
          exact ⟨fields, required, extraKeys, rfl, found⟩
        · exact tagged other variant later
      · obtain rfl : tag? = none := untagged
        exact absurd found notNone

/-- Alternatives that all have a tag become the variants under their tags. -/
private theorem exists_expresses_discriminatedUnion {discriminator : String}
    {variants : Entries Ast} {bs : List Ast}
    (each : List.Forall₂ Expresses (Entries.values variants) bs) (nonempty : variants ≠ [])
    (constant : ∀ variant ∈ Entries.values variants, variant.HasConstant)
    (readable : ∃ b, JsonSchema.read
      (.object (membersOf (.discriminatedUnion discriminator variants))) = .ok b) :
    ∃ b, (Ast.discriminatedUnion discriminator variants).Expresses b := by
  obtain ⟨b, ok⟩ := readable
  obtain ⟨asts, okList, okUnion⟩ := bind_eq_ok_iff.1 (readPlan_of_read rfl ok)
  -- What is read are the descriptions that the variants express.
  have schemas : variantSchemas variants = bs.map fun b ↦ .object (membersOf b) := by
    rw [variantSchemas_eq_schemasOf, ← schemasOf_congr each, schemasOf_eq]
  have okList : readList (variantSchemas variants) = .ok asts := by
    rw [readListUnder_eq] at okList
    exact okList
  rw [schemas, readList_map fun b member ↦
    read_membersOf (representable_of_forall₂ each b member)] at okList
  obtain rfl : bs = asts := Except.ok.inj okList
  obtain ⟨⟨shared, tags⟩, found, later⟩ := bind_eq_ok_iff.1 okUnion
  cases shared with
  | none => cases later
  | some name =>
    obtain ⟨tagged, okVariants, last⟩ := bind_eq_ok_iff.1 later
    obtain ⟨-, -, fit⟩ := findTags_cases found
    have constants : ∀ b ∈ bs, b.HasConstant := by
      intro b member
      obtain ⟨variant, among, expresses⟩ := forall₂_exists_of_mem each.flip member
      exact expresses.constant (constant variant among)
    obtain ⟨values, tags⟩ :=
      values_variantsOf fit constants (forall₂_variantsOf fit.length_eq okVariants)
    have members : membersOf (.discriminatedUnion name tagged) =
        membersOf (.discriminatedUnion discriminator variants) := by
      rw [membersOf, membersOf, variantSchemas_eq_schemasOf, values, schemasOf_congr each,
        variantSchemas_eq_schemasOf]
    have some : tagged ≠ [] := by
      rintro rfl
      have none : bs = [] := values.symm
      rw [none, List.forall₂_nil_right_iff] at each
      exact nonempty (List.map_eq_nil_iff.1 each)
    refine ⟨.discriminatedUnion name tagged, .of_kind (.discriminatedUnion some
      (distinct_variantsOf okVariants).1 (fun tag variant member ↦ ?_) fun tag variant member ↦ ?_)
      members (by simp [kind])⟩
    · refine representable_of_forall₂ each variant ?_
      rw [← values]
      exact List.mem_map_of_mem member
    · obtain ⟨fields, required, extraKeys, rfl, first⟩ := tags tag variant member
      obtain ⟨before, value, after, rfl, notBefore, key⟩ := exists_split_of_tagOf? first
      exact ⟨before, value, after, required, extraKeys, rfl, notBefore, key⟩

/-! ### All descriptions -/

/-- The schema of a description without references, if it is read, is that of a description that
JSON Schema can express. -/
theorem exists_expresses {ast : Ast} (described : ast.All Described)
    (placed : ast.All OptionalFieldsOnly) (readable : ast.core.Readable) :
    ∃ b, ast.core.Expresses b := by
  induction ast using Ast.induction with
  | step ast ih =>
    have field' (notOptional : ast.isOptional = false) (part : Ast) (member : part ∈ ast.written) :
        ∃ b, part.core.Expresses b := by
      rw [core_eq_self notOptional] at readable
      have isChild := mem_children_of_mem_written member
      exact ih part isChild (described.child isChild) (placed.child isChild)
        (readable.part notOptional member).core
    have part (notOptional : ast.isOptional = false) (notStruct : ast.kind ≠ .struct) (part : Ast)
        (member : part ∈ ast.written) : ∃ b, part.Expresses b := by
      rw [← core_eq_self (placed.here notStruct part (mem_children_of_mem_written member))]
      exact field' notOptional part member
    cases ast with
    | string c => exact ⟨.string c, .of_kind (.string c) rfl (by simp [core, kind])⟩
    | number c => exact ⟨.number c, .of_kind (.number c) rfl (by simp [core, kind])⟩
    | integer c => exact ⟨.integer c, .of_kind (.integer c) rfl (by simp [core, kind])⟩
    | boolean => exact ⟨.boolean, .of_kind .boolean rfl (by simp [core, kind])⟩
    | null => exact ⟨.null, .of_kind .null rfl (by simp [core, kind])⟩
    | symbol => exact ⟨.string {}, .of_kind (.string {}) rfl (by simp [core, kind])⟩
    | literal values =>
      obtain ⟨nonempty, free⟩ := described.here
      refine ⟨.literal values, .literal nonempty free, rfl, fun _ _ ↦ rfl, fun has ↦ ?_⟩
      obtain ⟨_, _, _, _, _, eq, -⟩ := has
      cases eq
    | array item c =>
      obtain ⟨b, expresses⟩ := part rfl (by simp [kind]) item (by simp [written, children])
      -- An exact length is shown as equal limits.
      refine ⟨.array b { min := c.length <|> c.min, max := c.length <|> c.max, unique := c.unique },
        .of_kind (.array expresses.representable rfl) ?_ (by simp [core, kind])⟩
      show arrayMembers (.object (membersOf b)) _ = arrayMembers (.object (membersOf item)) c
      rw [expresses.members]
      rfl
    | tuple elements =>
      obtain ⟨bs, each⟩ := exists_forall₂ (part rfl (by simp [kind]))
      exact ⟨.tuple bs, .of_kind (.tuple (representable_of_forall₂ each))
        (congrArg tupleMembers (schemasOf_congr each)) (by simp [core, kind])⟩
    | struct fields required extraKeys =>
      obtain ⟨distinct, rfl⟩ := described.here
      have fieldExpresses (field : String × Ast) (member : field ∈ fields) :
          ∃ field', FieldExpresses field field' := by
        obtain ⟨b, expresses⟩ := field' rfl field.2 (List.mem_map_of_mem member)
        exact ⟨(field.1, withCore b field.2), rfl, b, expresses, rfl⟩
      obtain ⟨fields', each⟩ := exists_forall₂ fieldExpresses
      exact ⟨_, expresses_struct extraKeys distinct each⟩
    | record key value =>
      obtain ⟨b, expresses⟩ := part rfl (by simp [kind]) value (by simp [written])
      refine ⟨.record .plainString b, .of_kind (.record expresses.representable) ?_
        (by simp [core, kind])⟩
      show typed "object" [("additionalProperties", .object (membersOf b))] = _
      rw [expresses.members]
      rfl
    | union members =>
      obtain ⟨bs, each⟩ := exists_forall₂ (part rfl (by simp [kind]))
      exact exists_expresses_union each
    | discriminatedUnion discriminator variants =>
      obtain ⟨nonempty, constant⟩ := described.here
      obtain ⟨bs, each⟩ := exists_forall₂ (part rfl (by simp [kind]))
      rcases readable with plain | reads
      · exact absurd rfl plain.here
      · exact exists_expresses_discriminatedUnion each nonempty constant reads
    | optional inner default =>
      have notOptional : inner.isOptional = false :=
        placed.here (by simp [kind]) inner (by simp [children])
      have expressed := ih inner (by simp [children]) (described.child (by simp [children]))
        (placed.child (by simp [children]))
      rw [core_eq_self notOptional] at expressed
      exact expressed readable
    | transform inner target =>
      obtain ⟨b, expresses⟩ := part rfl (by simp [kind]) inner (by simp [written, children])
      exact ⟨b, .of_kind expresses.representable expresses.members (by simp [core, kind])⟩
    | lazy => exact described.here.elim

end Ast

/-! ### Descriptions of schemas -/

/-- The values of a literal are no symbols and hold none. -/
theorem LiteralType.symbolFree (type : LiteralType) : ∀ value ∈ type.values, value.SymbolFree := by
  intro value member
  have scalar := List.all_eq_true.1 type.scalars value member
  cases value with
  | symbol | array | object => cases scalar
  | _ => trivial

/-- Below a node only the fields of a struct are optional. -/
def Node.OptionalFieldsOnly (node : Node) : Prop :=
  node.kind ≠ .struct → ∀ child ∈ node.children, child.isOptional = false

section Describing

variable {references : References} {inline : Describer} {stack : List (Option Place)}

/-- The description of a variant is a struct with a constant. -/
private theorem hasConstant_of_describeNode {discriminator tag : String} {variant : Node}
    (fits : Node.variantFault? discriminator tag variant = none) {ast : Ast}
    (described : describeNode references inline stack variant = some ast) : ast.HasConstant := by
  obtain ⟨place, fields, extraKeys, type, only, rfl, found, values, -⟩ :=
    Node.variantFault?_eq_none fits
  rw [describeNode_eq (by simp [Node.kind]), Option.map_eq_some_iff] at described
  obtain ⟨asts, each, rfl⟩ := described
  have related := Entries.Related.of_forall₂
    (Entries.forall₂_zip_keys (describeList_eq_some_iff.1 each))
  obtain ⟨literal, found', describedLiteral⟩ := related.some_left found
  obtain rfl : Ast.literal type.values = literal := Option.some.inj describedLiteral
  rw [values] at found'
  exact ⟨_, _, extraKeys, discriminator, only, rfl, Entries.mem_of_get?_eq_some found'⟩

/-- The description of a node from those of its children, where it is none of a reference. -/
private theorem described_describedBy {node : Node} (notLazy : node.kind ≠ .lazy)
    (formed : node.Formed) {asts : List Ast}
    (each : List.Forall₂ (fun child ast ↦ describeNode references inline stack child = some ast
      ∧ ast.kind = child.kind) node.children asts) :
    (node.describedBy references asts).Described := by
  cases node with
  | lazy => exact absurd rfl notLazy
  | literal type =>
    exact ⟨type.nonempty, type.symbolFree⟩
  | struct _ fields extraKeys =>
    have length : asts.length = fields.length := by
      simpa [Node.children, Entries.values] using each.length_eq.symm
    refine ⟨by rwa [Entries.Distinct, Entries.keys_zip length], requiredNames_congr ?_⟩
    have zipped := Entries.forall₂_zip_keys each
    exact zipped.flip.imp fun f n related ↦ ⟨related.1.symm, (isOptional_congr related.2.2.symm)⟩
  | discriminatedUnion _ discriminator variants =>
    have length : asts.length = variants.length := by
      simpa [Node.children, Entries.values] using each.length_eq.symm
    refine ⟨?_, fun ast member ↦ ?_⟩
    · intro none
      have noNames : Entries.keys variants = [] := by rw [← Entries.keys_zip length, none]; rfl
      rw [List.map_eq_nil_iff.1 noNames] at formed
      cases formed
    · have member : ast ∈ Entries.values ((Entries.keys variants).zip asts) := member
      rw [Entries.values_zip length] at member
      obtain ⟨_, among, describes, -⟩ := forall₂_exists_of_mem each.flip member
      obtain ⟨⟨tag, variant⟩, inVariants, rfl⟩ := List.mem_map.1 among
      exact hasConstant_of_describeNode
        ((Node.checkVariants_eq_ok formed).1 tag variant inVariants) describes
  | array | optional | transform =>
    obtain ⟨ast, -, rfl⟩ := forall₂_singleton_left each
    trivial
  | record =>
    obtain ⟨key, value, -, -, rfl⟩ := forall₂_pair_left each
    trivial
  | _ => trivial

/-- A schema without references has a description, and the description has its shape. -/
private theorem exists_described {node : Node} (noLazy : node.All fun node ↦ node.kind ≠ .lazy)
    (formed : node.All Node.Formed) (placed : node.All Node.OptionalFieldsOnly) :
    ∃ ast, describeNode references inline stack node = some ast ∧ ast.kind = node.kind
      ∧ ast.All Ast.Described ∧ ast.All Ast.OptionalFieldsOnly := by
  induction node using Node.induction generalizing stack with
  | step node ih =>
    obtain ⟨asts, each⟩ := exists_forall₂ fun child member ↦
      @ih child member (node.place? :: stack) (noLazy.child member) (formed.child member)
        (placed.child member)
    have describes := describeList_eq_some_iff.2 (each.imp fun _ _ h ↦ h.1)
    obtain ⟨children, kind⟩ :=
      @Node.children_describedBy references node noLazy.here asts each.length_eq
    refine ⟨node.describedBy references asts, ?_, kind, .intro ?_ ?_, .intro ?_ ?_⟩
    · rw [describeNode_eq noLazy.here, describes]
      rfl
    · exact described_describedBy noLazy.here formed.here (each.imp fun _ _ h ↦ ⟨h.1, h.2.1⟩)
    · rw [children]
      intro ast member
      obtain ⟨_, -, _, _, described, -⟩ := forall₂_exists_of_mem each.flip member
      exact described
    · intro notStruct ast member
      rw [children] at member
      rw [kind] at notStruct
      obtain ⟨child, among, _, sameKind, -⟩ := forall₂_exists_of_mem each.flip member
      rw [← isOptional_congr sameKind.symm]
      exact placed.here notStruct child among
    · rw [children]
      intro ast member
      obtain ⟨_, -, _, _, _, placed⟩ := forall₂_exists_of_mem each.flip member
      exact placed

end Describing

/-- A schema without references in which only fields are optional is described, and what is read
from the JSON Schema of its description has that JSON Schema again. Without discriminated unions it
is always read. -/
theorem Schema.toJsonSchema_ofJsonSchema {schema : Schema}
    (noLazy : schema.root.All fun node ↦ node.kind ≠ .lazy) (formed : schema.root.All Node.Formed)
    (placed : schema.root.All Node.OptionalFieldsOnly)
    (notOptional : schema.root.isOptional = false) :
    ∃ ast, schema.toAst? = some ast
      ∧ ((ast.All fun part ↦ part.kind ≠ .discriminatedUnion) →
        ∃ b, Ast.ofJsonSchema ast.toJsonSchema = .ok b)
      ∧ ∀ b, Ast.ofJsonSchema ast.toJsonSchema = .ok b → b.toJsonSchema = ast.toJsonSchema := by
  obtain ⟨ast, describes, kind, described, placed⟩ := exists_described noLazy formed placed
  have notOptional : ast.isOptional = false := by rwa [← isOptional_congr kind.symm]
  have expressed (readable : ast.Readable) : ∃ b, ast.Expresses b := by
    rw [← Ast.core_eq_self notOptional] at readable ⊢
    exact Ast.exists_expresses described placed readable
  refine ⟨ast, (describeAt_eq _ _ _ _).trans describes, fun plain ↦ ?_, fun b ok ↦ ?_⟩
  · obtain ⟨b, expresses⟩ := expressed (.inl plain)
    rw [Ast.ofJsonSchema, JsonSchema.toJsonSchema_eq]
    exact ⟨b, expresses.read⟩
  · rw [Ast.ofJsonSchema, JsonSchema.toJsonSchema_eq] at ok
    obtain ⟨b', expresses⟩ := expressed (.inr ⟨b, ok⟩)
    obtain rfl : b' = b := Except.ok.inj (expresses.read.symm.trans ok)
    rw [JsonSchema.toJsonSchema_eq, JsonSchema.toJsonSchema_eq, expresses.members]

/-- A stock that keeps undeclared keys: a label that decodes to a symbol, two sizes, a note that is
null by default, and converted prices by symbol. -/
def Schema.stock : Schema where
  root := .struct none
    [("label", .symbol), ("sizes", .array none (.integer {}) { length := some 2 }),
      ("note", .optional none (.union none [.null, .string .plain]) (some .null)),
      ("prices", .record none .symbol (.transform none (.number {}) "Price" ⟨id, id⟩))] .include
  references := []

/-- The description of the stock. -/
def Ast.stock : Ast :=
  .struct
    [("label", .symbol), ("sizes", .array (.integer {}) { length := some 2 }),
      ("note", .optional (.union [.null, .string {}]) (some .null)),
      ("prices", .record .symbol (.transform (.number {}) "Price"))]
    ["label", "sizes", "prices"] .include

/-- What is read from the JSON Schema of the stock is another description, with the same JSON
Schema. -/
theorem Schema.toJsonSchema_ofJsonSchema_stock :
    Schema.stock.toAst? = some Ast.stock
      ∧ ∃ b, Ast.ofJsonSchema (Ast.stock.toJsonSchema) = .ok b
        ∧ b.toJsonSchema = Ast.stock.toJsonSchema := by
  have described : Schema.stock.toAst? = some Ast.stock := rfl
  have nodes : Schema.stock.root.All fun node ↦
      node.kind ≠ .lazy ∧ node.Formed ∧ node.OptionalFieldsOnly := by
    simp [Schema.stock, Node.all_iff (.struct _ _ _), Node.all_iff .symbol,
      Node.all_iff (.array _ _ _), Node.all_iff (.integer _), Node.all_iff (.optional _ _ _),
      Node.all_iff (.union _ _), Node.all_iff .null, Node.all_iff (.string _),
      Node.all_iff (.record _ _ _), Node.all_iff (.transform _ _ _ _), Node.all_iff (.number _),
      Node.children, Entries.values, Node.kind, Node.Formed, Entries.Distinct,
      Node.OptionalFieldsOnly, Node.isOptional]
  have plain : Ast.stock.All fun part ↦ part.kind ≠ .discriminatedUnion := by
    simp [Ast.stock, Ast.all_iff (.struct _ _ _), Ast.all_iff .symbol, Ast.all_iff (.array _ _),
      Ast.all_iff (.integer _), Ast.all_iff (.optional _ _), Ast.all_iff (.union _),
      Ast.all_iff .null, Ast.all_iff (.string _), Ast.all_iff (.record _ _),
      Ast.all_iff (.transform _ _), Ast.all_iff (.number _), Ast.children, Entries.values,
      Ast.kind]
  obtain ⟨ast, describes, reads, fixed⟩ := Schema.toJsonSchema_ofJsonSchema
    (nodes.imp fun _ h ↦ h.1) (nodes.imp fun _ h ↦ h.2.1) (nodes.imp fun _ h ↦ h.2.2) rfl
  obtain rfl : Ast.stock = ast := Option.some.inj (described.symm.trans describes)
  obtain ⟨b, ok⟩ := reads plain
  exact ⟨described, b, ok, fixed b ok⟩

end Schemata
