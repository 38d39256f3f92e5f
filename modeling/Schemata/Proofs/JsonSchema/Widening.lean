import Schemata.Proofs.JsonSchema.Buildable
import Schemata.Proofs.JsonSchema.FixedPoint
import Schemata.Proofs.Schema.Rebuilding
import Schemata.Proofs.Schema.Widening

/-!
# What comes back from JSON Schema accepts no less

JSON Schema has no words for symbols, for the keys of a record, for a transform or for keeping
undeclared keys, and what is read in their place accepts more. So it is with every kind of node, and
so a trip through JSON Schema widens a schema, if it is read and built again
(`Schema.decode_ofJsonSchema_toJsonSchema`). The exception is a mark that a value may be absent,
where it is not that of a field: the schema that is written is the one of the node below, and null
is accepted no longer (`Schema.labels_narrowed`).
-/

namespace Schemata

namespace Node

/-- Everything that is built from the description is wider than the node. -/
def WidenedThrough (node : Node) (b : Ast) : Prop :=
  ∀ built, Builds b built → node.WidenedBy built

namespace WidenedThrough

variable {place : Option Place} {node : Node} {b : Ast}

/-! ### Kinds -/

/-- A description that can only be assembled to one node without children. -/
theorem leaf (assembled : ∀ references enclosing place nodes,
      b.assemble references enclosing place nodes = .ok node)
    (noChild : node.children = []) (notLazy : node.kind ≠ .lazy) : node.WidenedThrough b := by
  intro built builds
  obtain ⟨references, enclosing, place, nodes, -, assembled'⟩ := builds.exists_assemble
  obtain rfl := Except.ok.inj ((assembled references enclosing place nodes).symm.trans assembled')
  exact .leaf noChild notLazy

theorem string (type : StringType) : (string type).WidenedThrough (.string type.constraints) := by
  refine leaf (fun _ _ _ _ ↦ ?_) rfl (by simp [kind])
  rw [Ast.assemble, StringType.ofConstraints_constraints]
  rfl

theorem literal (type : LiteralType) : (literal type).WidenedThrough (.literal type.values) := by
  refine leaf (fun _ _ _ _ ↦ ?_) rfl (by simp [kind])
  rw [Ast.assemble, LiteralType.ofValues_values]
  rfl

theorem symbol : symbol.WidenedThrough .plainString := by
  intro built builds
  rw [builds.plainString]
  exact .symbol

theorem array {item : Node} {c c' : ArrayConstraints} (items : item.WidenedThrough b)
    (constraints : ∀ values, c.violation? values = none → c'.violation? values = none) :
    (array place item c).WidenedThrough (.array b c') := by
  intro built builds
  obtain ⟨_, _, _, _, children, assembled⟩ := builds.exists_assemble
  obtain ⟨item', buildsItem, rfl⟩ := forall₂_singleton_left children
  cases assembled
  exact .array (items item' buildsItem) constraints

theorem tuple {elements : List Node} {bs : List Ast}
    (each : List.Forall₂ WidenedThrough elements bs) :
    (tuple place elements).WidenedThrough (.tuple bs) := by
  intro built builds
  obtain ⟨_, _, _, nodes, children, assembled⟩ := builds.exists_assemble
  cases assembled
  exact .tuple (forall₂_comp each children fun _ _ built through builds ↦ through built builds)

theorem record {key value : Node} (values : value.WidenedThrough b) :
    (record place key value).WidenedThrough (.record .plainString b) := by
  intro built builds
  obtain ⟨_, _, _, _, children, assembled⟩ := builds.exists_assemble
  obtain ⟨key', value', buildsKey, buildsValue, rfl⟩ := forall₂_pair_left children
  cases assembled
  obtain rfl := buildsKey.plainString
  exact .record (values value' buildsValue)

theorem union {members : List Node} {bs : List Ast}
    (each : ∀ member ∈ members, ∃ b ∈ bs, member.WidenedThrough b) :
    (union place members).WidenedThrough (.union bs) := by
  intro built builds
  obtain ⟨_, _, _, nodes, children, assembled⟩ := builds.exists_assemble
  cases assembled
  refine .union fun member among ↦ ?_
  obtain ⟨b, amongRead, through⟩ := each member among
  obtain ⟨wider, amongBuilt, builds⟩ := forall₂_exists_of_mem children amongRead
  exact ⟨wider, amongBuilt, through wider builds⟩

theorem optional {inner : Node} (through : inner.WidenedThrough b)
    (default default' : Option Value) :
    (optional place inner default).WidenedThrough (.optional b default') := by
  intro built builds
  obtain ⟨_, inner', _, buildsInner, rfl⟩ := builds.optional
  exact .optional (through inner' buildsInner) _ _

theorem marked (through : node.WidenedThrough b) (default : Option Value) :
    node.WidenedThrough (.optional b default) := by
  intro built builds
  obtain ⟨_, inner', _, buildsInner, rfl⟩ := builds.optional
  exact (through inner' buildsInner).marked _

theorem transform (through : node.WidenedThrough b) (target : String) (conversion : Conversion) :
    (transform place node target conversion).WidenedThrough b :=
  fun built builds ↦ (through built builds).transform target conversion

/-- A field that is read as optional if it was. -/
def Field (field : String × Node) (field' : String × Ast) : Prop :=
  field.1 = field'.1 ∧ field.2.WidenedThrough field'.2
    ∧ (field.2.isOptional = true → field'.2.isOptional = true)

theorem struct {fields : List (String × Node)} {fields' : List (String × Ast)}
    {required : List String} {extraKeys extraKeys' : ExtraKeys}
    (each : List.Forall₂ Field fields fields')
    (policy : extraKeys' = .reject → extraKeys = .reject) :
    (struct place fields extraKeys).WidenedThrough (.struct fields' required extraKeys') := by
  intro built builds
  obtain ⟨_, _, _, nodes, children, assembled⟩ := builds.exists_assemble
  cases assembled
  refine .struct ?_ policy
  rw [List.forall₂_map_right_iff]
  refine forall₂_comp each (Entries.forall₂_zip_keys children) ?_
  rintro ⟨name, node⟩ ⟨_, b⟩ ⟨_, built⟩ ⟨rfl, through, optional⟩ ⟨rfl, builds⟩
  refine ⟨rfl, fun isOptional ↦ ?_, ?_⟩
  · cases b with
    | optional =>
      obtain ⟨_, _, _, -, rfl⟩ := builds.optional
      rfl
    | _ => cases optional isOptional
  · show node.WidenedBy (asField required name built)
    have widened := through built builds
    rw [asField]
    split
    · exact widened
    · exact widened.marked none

end WidenedThrough

end Node

/-! ### All kinds -/

/-- An array of an exact length keeps to it as to equal limits. -/
private theorem violation?_of_length {c : ArrayConstraints} {values : List Value}
    (sound : c.violation? values = none) :
    ({ min := c.length <|> c.min, max := c.length <|> c.max, unique := c.unique } :
      ArrayConstraints).violation? values = none := by
  obtain ⟨least, most, exact', distinct⟩ := ArrayConstraints.violation?_eq_none_iff.1 sound
  refine ArrayConstraints.violation?_eq_none_iff.2 ⟨?_, ?_, by simp, distinct⟩
  · cases length : c.length with
    | none => simpa using least
    | some n => simpa using Nat.le_of_eq (exact' n length).symm
  · cases length : c.length with
    | none => simpa using most
    | some n => simpa using Nat.le_of_eq (exact' n length)

namespace Node

/-- A field stays optional if it was, and may become so otherwise. -/
private theorem field_of_read {required : List String} {name : String} {node : Node} {b : Ast}
    (through : node.unmarked.WidenedThrough b)
    (notRequired : node.isOptional = true → name ∉ required) (schema : Json) :
    WidenedThrough.Field (name, node.unmarkedField)
      (name, JsonSchema.fieldOf required name schema b) := by
  cases isOptional : node.isOptional with
  | true =>
    cases node with
    | optional place inner default =>
      rw [JsonSchema.fieldOf, if_neg (by simpa using notRequired rfl)]
      exact ⟨rfl, WidenedThrough.optional through _ _, fun _ ↦ rfl⟩
    | _ => cases isOptional
  | false =>
    rw [unmarkedField_of_not_optional isOptional]
    refine ⟨rfl, ?_, fun marked ↦ ?_⟩
    · show node.unmarked.WidenedThrough (JsonSchema.fieldOf required name schema b)
      rw [JsonSchema.fieldOf]
      split
      · exact through
      · exact through.marked _
    · have marked : node.unmarked.isOptional = true := marked
      rw [isOptional_unmarked] at marked
      cases marked

variable {references : References} {inline : Describer}

/-- What is built from what the schema of a node reads as is wider than the node without its
marks. -/
theorem widenedThrough_unmarked {node : Node} (noLazy : node.All fun node ↦ node.kind ≠ .lazy)
    (noVariants : node.All fun node ↦ node.kind ≠ .discriminatedUnion)
    (formed : node.All Formed) {stack : List (Option Place)} {ast b : Ast}
    (describes : describeNode references inline stack node = some ast)
    (ok : JsonSchema.read (.object (JsonSchema.membersOf ast)) = .ok b) :
    node.unmarked.WidenedThrough b := by
  induction node using Node.induction generalizing stack ast b with
  | step node ih =>
    rw [describeNode_eq noLazy.here, Option.map_eq_some_iff] at describes
    obtain ⟨asts, each, rfl⟩ := describes
    have each := describeList_eq_some_iff.1 each
    have part {child : Node} {ast b : Ast} (member : child ∈ node.children)
        (describes : describeNode references inline (node.place? :: stack) child = some ast)
        (ok : JsonSchema.read (.object (JsonSchema.membersOf ast)) = .ok b) :
        child.unmarked.WidenedThrough b :=
      ih child member (noLazy.child member) (noVariants.child member) (formed.child member)
        describes ok
    have same {part : Ast} (representable : part.Representable)
        (ok : JsonSchema.read (.object (JsonSchema.membersOf part)) = .ok b) : part = b :=
      Except.ok.inj ((JsonSchema.read_membersOf representable).symm.trans ok)
    cases node with
    | lazy => exact absurd rfl noLazy.here
    | discriminatedUnion => exact absurd rfl noVariants.here
    | string type =>
      obtain rfl := same (.string _) ok
      exact .string type
    | number | integer | boolean | null =>
      obtain rfl := same (by constructor) ok
      exact .leaf (fun _ _ _ _ ↦ rfl) rfl (by simp [unmarked, kind])
    | symbol =>
      obtain rfl := same (.string {}) ok
      exact .symbol
    | literal type =>
      obtain rfl := same (.literal type.nonempty type.symbolFree) ok
      exact .literal type
    | array place item c =>
      obtain ⟨ast, describesItem, rfl⟩ := forall₂_singleton_left each
      rw [describedBy, JsonSchema.read_array] at ok
      obtain ⟨b, okItem, rfl⟩ := map_eq_ok_iff.1 ok
      exact .array (part (by simp [children]) describesItem okItem) fun _ ↦ violation?_of_length
    | tuple place elements =>
      rw [describedBy, JsonSchema.read_tuple] at ok
      obtain ⟨bs, okList, rfl⟩ := map_eq_ok_iff.1 ok
      rw [unmarked, unmarkedList_eq]
      refine .tuple (List.forall₂_map_left_iff.2 ?_)
      exact forall₂_comp (forall₂_mem_left each) (JsonSchema.forall₂_of_schemasOf okList)
        fun _ _ _ here ok ↦ part here.1 here.2 ok
    | struct place fields extraKeys =>
      rw [describedBy, JsonSchema.read_struct] at ok
      obtain ⟨bs, okFields, rfl⟩ := map_eq_ok_iff.1 ok
      rw [unmarked, unmarkedFields_eq]
      refine .struct (List.forall₂_map_left_iff.2 ?_) ?_
      · refine forall₂_comp (forall₂_mem_left (Entries.forall₂_zip_keys each))
          (JsonSchema.forall₂_of_propertiesOf okFields) ?_
        rintro ⟨name, node⟩ ⟨_, ast⟩ ⟨_, b⟩ ⟨member, rfl, describes⟩ ⟨rfl, b, ok, rfl⟩
        refine field_of_read (part (List.mem_map.2 ⟨_, member, rfl⟩) describes ok) ?_ _
        simp +contextual [mem_requiredNames formed.here member]
      · cases extraKeys <;> simp [JsonSchema.extraKeysOf]
    | record place key value =>
      obtain ⟨_, ast, -, describesValue, rfl⟩ := forall₂_pair_left each
      rw [describedBy, JsonSchema.read_record] at ok
      obtain ⟨b, okValue, rfl⟩ := map_eq_ok_iff.1 ok
      exact .record (part (by simp [children]) describesValue okValue)
    | union place members =>
      obtain ⟨bs, rfl, eachRead⟩ := Ast.read_union_cases ok
      rw [unmarked, unmarkedList_eq]
      refine .union fun _ mapped ↦ ?_
      obtain ⟨member, among, rfl⟩ := List.mem_map.1 mapped
      obtain ⟨ast, amongAsts, describes⟩ := forall₂_exists_of_mem each among
      obtain ⟨b, amongRead, ok⟩ := eachRead ast amongAsts
      exact ⟨b, amongRead, part among describes ok⟩
    | optional place inner default =>
      obtain ⟨ast, describesInner, rfl⟩ := forall₂_singleton_left each
      rw [describedBy, ← Ast.read_core] at ok
      show inner.unmarked.WidenedThrough b
      exact part (by simp [children]) describesInner ok
    | transform place inner target conversion =>
      obtain ⟨ast, describesInner, rfl⟩ := forall₂_singleton_left each
      exact (part (by simp [children]) describesInner ok).transform target conversion

/-- Where only fields are marked there is nothing to take away below a field. -/
private theorem unmarkedField_eq_self {node : Node} (placed : node.All OptionalFieldsOnly) :
    node.unmarkedField = node := by
  induction node using Node.induction with
  | step node ih =>
    have below (child : Node) (member : child ∈ node.children) : child.unmarkedField = child :=
      ih child member (placed.child member)
    have part (notStruct : node.kind ≠ .struct) (child : Node) (member : child ∈ node.children) :
        child.unmarked = child := by
      rw [← unmarkedField_of_not_optional (placed.here notStruct child member)]
      exact below child member
    have parts (notStruct : node.kind ≠ .struct) : unmarkedList node.children = node.children := by
      rw [unmarkedList_eq]
      exact (List.map_congr_left (part notStruct)).trans (List.map_id _)
    have fields {entries : List (String × Node)}
        (values : Entries.values entries = node.children) : unmarkedFields entries = entries := by
      rw [unmarkedFields_eq]
      refine (List.map_congr_left fun entry member ↦ ?_).trans (List.map_id _)
      rw [below entry.2 (values ▸ List.mem_map_of_mem member)]
      rfl
    cases node with
    | array | optional | transform =>
      simp only [unmarkedField, unmarked, part (by simp [kind]) _ (List.mem_singleton.2 rfl)]
    | record =>
      simp only [unmarkedField, unmarked, part (by simp [kind]) _ List.mem_cons_self,
        part (by simp [kind]) _ (List.mem_cons_of_mem _ (List.mem_singleton.2 rfl))]
    | tuple place elements => exact congrArg (tuple place) (parts (by simp [kind]))
    | union place members => exact congrArg (union place) (parts (by simp [kind]))
    | struct place entries extraKeys => exact congrArg (struct place · extraKeys) (fields rfl)
    | discriminatedUnion place discriminator variants =>
      exact congrArg (discriminatedUnion place discriminator) (fields rfl)
    | _ => rfl

theorem unmarked_eq_self {node : Node} (placed : node.All OptionalFieldsOnly)
    (notOptional : node.isOptional = false) : node.unmarked = node := by
  rw [← unmarkedField_of_not_optional notOptional]
  exact unmarkedField_eq_self placed

end Node

/-- What goes through JSON Schema and comes back accepts every value without symbols that the schema
accepts without its marks outside fields. Where only fields are marked, that is the schema
itself. -/
theorem Schema.decode_ofJsonSchema_toJsonSchema {schema : Schema}
    (noLazy : schema.root.All fun node ↦ node.kind ≠ .lazy)
    (noVariants : schema.root.All fun node ↦ node.kind ≠ .discriminatedUnion)
    (formed : schema.root.All Node.Formed) :
    (∃ ast, schema.toAst? = some ast ∧ ∀ metadata b wider,
      Ast.ofJsonSchema (ast.toJsonSchema metadata) = .ok b → Schema.ofAst b = .ok wider →
      ∀ value, value.SymbolFree → ∀ maxDepth d,
        Schema.decode { schema with root := schema.root.unmarked } value maxDepth = .ok d →
        ∃ d', wider.decode value maxDepth = .ok d')
    ∧ (schema.root.All Node.OptionalFieldsOnly → schema.root.isOptional = false →
      schema.root.unmarked = schema.root) := by
  refine ⟨?_, Node.unmarked_eq_self⟩
  obtain ⟨ast, describes⟩ := exists_describeNode noLazy
  refine ⟨ast, (describeAt_eq _ _ _ _).trans describes, ?_⟩
  intro metadata b wider ok built value free maxDepth d decodes
  rw [Ast.ofJsonSchema, JsonSchema.read_toJsonSchema] at ok
  obtain ⟨part, builtRoot, last⟩ := bind_eq_ok_iff.1 built
  obtain ⟨_, -, last⟩ := bind_eq_ok_iff.1 last
  cases last
  exact Node.widenedThrough_unmarked noLazy noVariants formed describes ok part.node
    ⟨_, _, part, builtRoot, rfl⟩ _ free decodes

/-- An order that keeps undeclared keys: a label that decodes to a symbol, two sizes that may be
null, a note that may be absent, and converted prices by symbol. -/
def Schema.order : Schema where
  root := .struct none
    [("label", .symbol),
      ("sizes", .array none (.optional none (.integer {}) none) { length := some 2 }),
      ("note", .optional none (.union none [.null, .string .plain]) none),
      ("prices", .record none .symbol (.transform none (.number {}) "Price" ⟨id, id⟩))] .include
  references := []

/-- What an order becomes accepts one with both sizes, which had to be a pair. -/
theorem Schema.decode_ofJsonSchema_toJsonSchema_order :
    ∃ ast b wider d, Schema.order.toAst? = some ast
      ∧ Ast.ofJsonSchema (ast.toJsonSchema { title := some "Order" }) = .ok b
      ∧ Schema.ofAst b = .ok wider
      ∧ wider.decode (.object [("label", .string "a"),
          ("sizes", .array [.number (.ofCount 1), .number (.ofCount 2)]),
          ("prices", .object []), ("paid", .null)]) = .ok d := by
  have nodes : Schema.order.root.All fun node ↦
      node.kind ≠ .lazy ∧ node.kind ≠ .discriminatedUnion ∧ node.Formed := by
    simp [Schema.order, Node.all_iff (.struct _ _ _), Node.all_iff .symbol,
      Node.all_iff (.array _ _ _), Node.all_iff (.integer _), Node.all_iff (.optional _ _ _),
      Node.all_iff (.union _ _), Node.all_iff .null, Node.all_iff (.string _),
      Node.all_iff (.record _ _ _), Node.all_iff (.transform _ _ _ _), Node.all_iff (.number _),
      Node.children, Entries.values, Node.kind, Node.Formed, Entries.Distinct]
  obtain ⟨⟨ast, described, wide⟩, -⟩ := Schema.decode_ofJsonSchema_toJsonSchema
    (nodes.imp fun _ h ↦ h.1) (nodes.imp fun _ h ↦ h.2.1) (nodes.imp fun _ h ↦ h.2.2)
  have free : (Value.object [("label", .string "a"),
      ("sizes", .array [.number (.ofCount 1), .number (.ofCount 2)]),
      ("prices", .object []), ("paid", .null)]).SymbolFree := by
    simp [Value.SymbolFree, Value.SymbolFreeItems, Value.SymbolFreeEntries]
  cases described
  obtain ⟨d, ok⟩ := wide { title := some "Order" } _ _ rfl rfl _ free defaultMaxDepth _ rfl
  exact ⟨_, _, _, d, rfl, rfl, rfl, ok⟩

/-- Labels that may be null. -/
def Schema.labels : Schema := ⟨.array none (.optional none (.string .plain) none) {}, []⟩

/-- An item may be null, and after a trip through JSON Schema it may not. -/
theorem Schema.labels_narrowed :
    Schema.labels.root.All (fun node ↦
        node.kind ≠ .lazy ∧ node.kind ≠ .discriminatedUnion ∧ node.Formed)
      ∧ ∃ ast b narrower, Schema.labels.toAst? = some ast
        ∧ Ast.ofJsonSchema ast.toJsonSchema = .ok b ∧ Schema.ofAst b = .ok narrower
        ∧ (Value.array [.null]).SymbolFree
        ∧ Schema.labels.decode (.array [.null]) = .ok (.array [.null])
        ∧ ∀ d, narrower.decode (.array [.null]) ≠ .ok d := by
  refine ⟨?_, _, _, _, rfl, rfl, rfl, ?_, rfl, fun d ok ↦ ?_⟩
  · simp [Schema.labels, Node.all_iff (.array _ _ _), Node.all_iff (.optional _ _ _),
      Node.all_iff (.string _), Node.children, Node.kind, Node.Formed]
  · simp [Value.SymbolFree, Value.SymbolFreeItems]
  · cases ok

end Schemata
