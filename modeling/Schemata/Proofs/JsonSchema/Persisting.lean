import Schemata.Proofs.Ast.WireFormat
import Schemata.Proofs.JsonSchema.Buildable
import Schemata.Proofs.Schema.Filling

/-!
# Persisting what was read from JSON Schema

A description that was read from JSON Schema, written and read back, is the description without the
defaults that are null: the written form has no other way to say them. This is all that is lost, and
it is not without effect. A null default on a type that refuses null keeps the description from
building; on one that accepts null it puts null where a field is absent.
-/

namespace Schemata

namespace Ast

/-- Null is a value of an imported type: it is null, or a union with a member that accepts null. -/
inductive AcceptsNull : Ast → Prop where
  /-- Null accepts null. -/
  | null : AcceptsNull .null
  /-- A union accepts what a member accepts. -/
  | union {members : List Ast} {member : Ast} (among : member ∈ members)
      (accepts : member.AcceptsNull) : AcceptsNull (.union members)

/-- A description whose own default is not null, unless its type accepts null. -/
def NullDefaultAccepted : Ast → Prop
  | .optional inner default => default = some .null → inner.AcceptsNull
  | _ => True

/-! ### Dropping null defaults -/

theorem children_withoutNullDefaults (ast : Ast) :
    ast.withoutNullDefaults.children = ast.children.map withoutNullDefaults := by
  cases ast <;> simp [withoutNullDefaults, children, listWithoutNullDefaults_eq,
    entriesWithoutNullDefaults_eq, Entries.values]

@[simp] theorem isOptional_withoutNullDefaults (ast : Ast) :
    ast.withoutNullDefaults.isOptional = ast.isOptional := by
  cases ast <;> rfl

theorem Imported.formed {ast : Ast} (imported : ast.Imported) : ast.Formed := by
  cases ast with
  | literal values => exact fun value member ↦ (imported.2 value member).2
  | struct => exact imported.1
  | discriminatedUnion => exact imported.2.1
  | optional inner default =>
    cases default with
    | none => trivial
    | some default => exact (imported.2 default rfl).2
  | lazy => exact imported.elim
  | _ => trivial

theorem Imported.noSymbol {ast : Ast} (imported : ast.Imported) : ast.NoSymbol := by
  cases ast with
  | literal values => exact fun value member ↦ (imported.2 value member).1
  | optional inner default =>
    cases default with
    | none => trivial
    | some default => exact (imported.2 default rfl).1
  | _ => trivial

/-- What is read back is a description that reading JSON Schema can give. -/
theorem Imported.withoutNullDefaults {ast : Ast} (imported : ast.Imported) :
    ast.withoutNullDefaults.Imported := by
  cases ast with
  | struct fields required extraKeys =>
    obtain ⟨distinct, nodup, listed⟩ := imported
    rw [Ast.withoutNullDefaults, entriesWithoutNullDefaults_eq]
    refine ⟨by rwa [Entries.Distinct, Entries.keys_map], nodup, fun name ↦ ?_⟩
    rw [listed, Entries.get?_map]
    simp
  | record key value =>
    obtain rfl : key = .plainString := imported
    rfl
  | union members =>
    rw [Ast.withoutNullDefaults, listWithoutNullDefaults_eq]
    refine List.forall_mem_map.2 fun member among ↦ ?_
    rw [isOptional_withoutNullDefaults]
    exact imported member among
  | discriminatedUnion discriminator variants =>
    obtain ⟨nonempty, distinct, tagged⟩ := imported
    rw [Ast.withoutNullDefaults, entriesWithoutNullDefaults_eq]
    refine ⟨by simpa using nonempty, by rwa [Entries.Distinct, Entries.keys_map], ?_⟩
    intro tag variant among
    obtain ⟨⟨_, source⟩, member, eq⟩ := List.mem_map.1 among
    cases eq
    obtain ⟨fields, required, extraKeys, value, rfl, found, key⟩ := tagged _ source member
    refine ⟨_, required, extraKeys, value, rfl, ?_, key⟩
    rw [entriesWithoutNullDefaults_eq, Entries.get?_map, found]
    rfl
  | optional inner default =>
    refine ⟨by rw [isOptional_withoutNullDefaults]; exact imported.1, fun value eq ↦ ?_⟩
    unfold givenDefault at eq
    split at eq
    · cases eq
    · exact imported.2 value eq
  | _ => exact imported

theorem all_withoutNullDefaults {ast : Ast} (imported : ast.All Imported) :
    ast.withoutNullDefaults.All Imported := by
  induction imported with
  | intro here _ ih =>
    refine .intro here.withoutNullDefaults ?_
    rw [children_withoutNullDefaults]
    exact List.forall_mem_map.2 ih

end Ast

variable {enclosing enclosing' : List (Kind × Place)} {place place' : Place}

/-! ### Null -/

/-- The node of an imported description other than null and union refuses null. -/
private theorem takesNull_of_assemble {references : References} {ast : Ast}
    (imported : ast.Imported) (notOptional : ast.isOptional = false) (notNull : ast.kind ≠ .null)
    (notUnion : ast.kind ≠ .union) {nodes : List Node} {node : Node}
    (assembled : ast.assemble references enclosing place nodes = .ok node) :
    node.takesNull = false := by
  cases ast with
  | string | literal | discriminatedUnion =>
    obtain ⟨_, -, last⟩ := bind_eq_ok_iff.1 assembled
    cases last
    rfl
  | null => exact absurd rfl notNull
  | union => exact absurd rfl notUnion
  | optional => cases notOptional
  | symbol | transform | lazy => exact imported.elim
  | _ =>
    cases assembled
    rfl

private theorem decodeAt_union_null {references : References} {limit levels : Nat}
    {members : List Ast} {nodes : List Node} {decoded : Value}
    (each : List.Forall₂ (fun member node ↦ ∀ decoded,
      decodeAt references limit levels node .null = .ok decoded ↔
        member.AcceptsNull ∧ decoded = .null) members nodes) {place : Option Place} :
    decodeAt references limit levels (.union place nodes) .null = .ok decoded ↔
      (Ast.union members).AcceptsNull ∧ decoded = .null := by
  have ofOk {decoded : Value}
      (ok : decodeAt references limit levels (.union place nodes) .null = .ok decoded) :
      (Ast.union members).AcceptsNull ∧ decoded = .null := by
    obtain ⟨before, node, after, rfl, -, okMember⟩ := decodeAt_union.1 ok
    obtain ⟨member, among, accepts⟩ := forall₂_exists_of_mem each.flip (by simp : node ∈ _)
    obtain ⟨acceptsNull, eq⟩ := (accepts decoded).1 okMember
    exact ⟨.union among acceptsNull, eq⟩
  refine ⟨ofOk, ?_⟩
  rintro ⟨accepts, rfl⟩
  cases accepts with
  | union among accepts =>
    obtain ⟨node, isNode, iff⟩ := forall₂_exists_of_mem each among
    obtain ⟨d, ok⟩ := exists_decodeAt_union isNode ((iff .null).2 ⟨accepts, rfl⟩)
    rwa [(ofOk ok).2] at ok

/-- What is built decodes null to null, if the description accepts it. -/
theorem decodeAt_null_iff_acceptsNull {references : References} {limit levels : Nat} {ast : Ast}
    (imported : ast.All Ast.Imported) (notOptional : ast.isOptional = false) {node : Node}
    (builds : Builds ast node) {decoded : Value} :
    decodeAt references limit levels node .null = .ok decoded ↔
      ast.AcceptsNull ∧ decoded = .null := by
  induction ast using Ast.induction generalizing node decoded with
  | step ast ih =>
    obtain ⟨_, _, _, built, rfl⟩ := builds
    obtain ⟨parts, node, children, assembled, rfl⟩ := buildNode_eq_ok_iff.1 built
    by_cases isNull : ast.kind = .null
    · cases ast with
      | null =>
        cases assembled
        rw [decodeAt_null]
        exact ⟨fun ⟨_, eq⟩ ↦ ⟨.null, eq.symm⟩, fun ⟨_, eq⟩ ↦ ⟨rfl, eq.symm⟩⟩
      | _ => cases isNull
    by_cases isUnion : ast.kind = .union
    · cases ast with
      | union members =>
        cases assembled
        have each (member : Ast) (among : member ∈ members) (node : Node)
            (builds : Builds member node) (decoded : Value) :
            decodeAt references limit levels node .null = .ok decoded ↔
              member.AcceptsNull ∧ decoded = .null :=
          ih member among (imported.child among) (imported.here member among) builds
        have both := (List.forall₂_and_left _ _).2 ⟨each, forall₂_builds children⟩
        exact decodeAt_union_null (both.imp fun member node h ↦ h.1 node h.2)
      | _ => cases isUnion
    · have refuses := takesNull_of_assemble imported.here notOptional isNull isUnion assembled
      rw [decodeAt_eq, decodeNode_null refuses]
      constructor
      · exact fun ok ↦ by cases ok
      · rintro ⟨accepts, -⟩
        cases accepts with
        | null => exact absurd rfl isNull
        | union => exact absurd rfl isUnion

/-! ### Building -/

/-- The outcomes of building from a description and from what is read back of it: the first one
succeeds where the second one does and null defaults are accepted, and then the two are related. -/
private structure Kept {α β : Type} (accepted : Prop) (r : α → β → Prop)
    (x : Except SchemaError α) (y : Except SchemaError β) : Prop where
  succeeds : (∃ a, x = .ok a) ↔ (∃ b, y = .ok b) ∧ accepted
  related : ∀ a b, x = .ok a → y = .ok b → r a b

namespace Kept

variable {α β γ δ : Type} {accepted accepted' : Prop} {r : α → β → Prop} {s : γ → δ → Prop}

private theorem of_ok {a : α} {b : β} (related : r a b) (holds : accepted) :
    Kept accepted r (.ok a) (.ok b) where
  succeeds := by simp [holds]
  related := by
    rintro _ _ ⟨⟩ ⟨⟩
    exact related

private theorem of_error (e e' : SchemaError) : Kept accepted r (.error e) (.error e') where
  succeeds := by simp
  related := by
    rintro _ _ ⟨⟩

private theorem of_refused (e : SchemaError) (refused : ¬accepted) {y : Except SchemaError β} :
    Kept accepted r (.error e) y where
  succeeds := by simp [refused]
  related := by
    rintro _ _ ⟨⟩

private theorem congr {x : Except SchemaError α} {y : Except SchemaError β}
    (kept : Kept accepted r x y) (iff : accepted' ↔ accepted) : Kept accepted' r x y where
  succeeds := by rw [kept.succeeds, iff]
  related := kept.related

private theorem bind {x : Except SchemaError α} {y : Except SchemaError β}
    (kept : Kept accepted r x y) {f : α → Except SchemaError γ} {g : β → Except SchemaError δ}
    (next : ∀ a b, x = .ok a → y = .ok b → r a b → Kept accepted' s (f a) (g b)) :
    Kept (accepted ∧ accepted') s (x >>= f) (y >>= g) where
  succeeds := by
    constructor
    · rintro ⟨c, ok⟩
      obtain ⟨a, okX, okF⟩ := bind_eq_ok_iff.1 ok
      obtain ⟨⟨b, okY⟩, holds⟩ := kept.succeeds.1 ⟨a, okX⟩
      obtain ⟨⟨d, okG⟩, holds'⟩ := (next a b okX okY (kept.related a b okX okY)).succeeds.1 ⟨c, okF⟩
      exact ⟨⟨d, bind_eq_ok_iff.2 ⟨b, okY, okG⟩⟩, holds, holds'⟩
    · rintro ⟨⟨d, ok⟩, holds, holds'⟩
      obtain ⟨b, okY, okG⟩ := bind_eq_ok_iff.1 ok
      obtain ⟨a, okX⟩ := kept.succeeds.2 ⟨⟨b, okY⟩, holds⟩
      obtain ⟨c, okF⟩ :=
        (next a b okX okY (kept.related a b okX okY)).succeeds.2 ⟨⟨d, okG⟩, holds'⟩
      exact ⟨c, bind_eq_ok_iff.2 ⟨a, okX, okF⟩⟩
  related := by
    intro c d ok ok'
    obtain ⟨a, okX, okF⟩ := bind_eq_ok_iff.1 ok
    obtain ⟨b, okY, okG⟩ := bind_eq_ok_iff.1 ok'
    exact (next a b okX okY (kept.related a b okX okY)).related c d okF okG

private theorem map {x : Except SchemaError α} {y : Except SchemaError β}
    (kept : Kept accepted r x y) {f : α → γ} {g : β → δ} (step : ∀ a b, r a b → s (f a) (g b)) :
    Kept accepted s (x.map f) (y.map g) :=
  (kept.bind fun a b _ _ related ↦ .of_ok (step a b related) trivial).congr
    (and_iff_left trivial).symm

private theorem of_same {result : Except SchemaError Node} (holds : accepted)
    (leaf : ∀ node, result = .ok node → node.children = [] ∧ node.kind ≠ .lazy) :
    Kept accepted Node.FillsField result result := by
  cases result with
  | error e => exact .of_error e e
  | ok node =>
    obtain ⟨noChild, notLazy⟩ := leaf node rfl
    exact .of_ok (.leaf noChild notLazy) holds

end Kept

private theorem assemble_optional {references : References} {inner : Ast}
    (noStub : inner.hasStub = false) (node : Node) (value : Value) :
    (Ast.optional inner (some value)).assemble references enclosing place [node] =
      optionalWithDefault references (some place) node value := by
  rw [Ast.assemble, noStub]
  rfl

/-- Only here is something dropped: a null default, which is decoded on one side and absent on the
other. Any other default is decoded on both. -/
private theorem kept_optional {inner : Ast} (imported : inner.All Ast.Imported)
    (notOptional : inner.isOptional = false) {node node' : Node} (builds : Builds inner node)
    (fills : node.FillsField node') (default : Option Value) (references references' : References) :
    Kept (Ast.optional inner default).NullDefaultAccepted Node.FillsField
      ((Ast.optional inner default).assemble references enclosing place [node])
      ((Ast.optional inner default).withoutNullDefaults.assemble references' enclosing' place'
        [node']) := by
  have noStub := hasStub_of_imported imported
  have noStub' := hasStub_of_imported (Ast.all_withoutNullDefaults imported)
  cases default with
  | none => exact .of_ok (.optional fills.present .none) fun eq ↦ by cases eq
  | some value =>
    rw [assemble_optional noStub, optionalWithDefault]
    by_cases isNull : value = .null
    · subst isNull
      have accepts (decoded : Value) :
          decodeAt references defaultMaxDepth defaultMaxDepth node .null = .ok decoded ↔
            inner.AcceptsNull ∧ decoded = .null :=
        decodeAt_null_iff_acceptsNull imported notOptional builds
      split
      · next decoded ok =>
        obtain ⟨accepted, rfl⟩ := (accepts decoded).1 ok
        exact .of_ok (.optional fills.present .dropped) fun _ ↦ accepted
      · next cause failed =>
        have refuses : ¬(Ast.optional inner (some .null)).NullDefaultAccepted := fun accepted ↦ by
          rw [(accepts .null).2 ⟨accepted rfl, rfl⟩] at failed
          cases failed
        exact .of_refused _ refuses
    · have given : Ast.givenDefault (some value) = some value :=
        Ast.givenDefault_of_ne (by simpa using isNull)
      rw [Ast.withoutNullDefaults, given, assemble_optional noStub', optionalWithDefault]
      have same := fills.present references references' defaultMaxDepth defaultMaxDepth value
      rcases same.ok_or_error with ⟨x, y, okX, okY, filled⟩ | ⟨e, failed, failed'⟩
      · rw [okX, okY]
        exact .of_ok (.optional fills.present (.some filled)) fun eq ↦
          absurd (Option.some.inj eq) isNull
      · rw [failed, failed']
        exact .of_error _ _

private theorem fillsField_asField {node node' : Node} (fills : node.FillsField node')
    (required : List String) (name : String) :
    (asField required name node).FillsField (asField required name node') := by
  rw [asField, asField, fills.isOptional_eq]
  split
  · exact fills
  · exact .optional fills.present .none

/-- Assembling keeps what holds of the children. -/
private theorem kept_assemble {ast : Ast} (imported : ast.All Ast.Imported)
    {parts parts' : List Part}
    (built : buildList ((ast.kind, place) :: enclosing) place 0 ast.children = .ok parts)
    (built' : buildList ((ast.withoutNullDefaults.kind, place') :: enclosing') place' 0
      ast.withoutNullDefaults.children = .ok parts')
    (fills : List.Forall₂ Node.FillsField (parts.map Part.node) (parts'.map Part.node))
    (references references' : References) :
    Kept ast.NullDefaultAccepted Node.FillsField
      (ast.assemble references enclosing place (parts.map Part.node))
      (ast.withoutNullDefaults.assemble references' enclosing' place' (parts'.map Part.node)) := by
  have named (names : List String) :
      List.Forall₂ (fun f f' ↦ f.1 = f'.1 ∧ f.2.FillsField f'.2) (names.zip (parts.map Part.node))
        (names.zip (parts'.map Part.node)) :=
    (forall₂_zip_left names fills).imp fun _ _ h ↦ ⟨h.1, h.2.2⟩
  cases ast with
  | string c =>
    refine .of_same trivial fun node ok ↦ ?_
    obtain ⟨type, -, last⟩ := bind_eq_ok_iff.1 ok
    cases last
    exact ⟨rfl, by simp [Node.kind]⟩
  | literal values =>
    refine .of_same trivial fun node ok ↦ ?_
    obtain ⟨type, -, last⟩ := bind_eq_ok_iff.1 ok
    cases last
    exact ⟨rfl, by simp [Node.kind]⟩
  | number | integer | boolean | null => exact .of_ok (.leaf rfl (by simp [Node.kind])) trivial
  | array item c =>
    obtain ⟨node, -, eq⟩ := forall₂_singleton_left (forall₂_builds built)
    rw [eq] at fills ⊢
    obtain ⟨node', here, eq'⟩ := forall₂_singleton_left fills
    rw [eq']
    exact .of_ok (.of_fills (.array here.present c) rfl rfl) trivial
  | tuple elements =>
    exact .of_ok (.of_fills (.tuple (fills.imp fun _ _ h ↦ h.present)) rfl rfl) trivial
  | struct fields required extraKeys =>
    have keys : Entries.keys (Ast.entriesWithoutNullDefaults fields) = Entries.keys fields := by
      rw [Ast.entriesWithoutNullDefaults_eq, Entries.keys_map]
    rw [Ast.withoutNullDefaults, Ast.assemble, Ast.assemble, keys]
    refine .of_ok (.of_fills (.struct ?_ extraKeys) rfl rfl) trivial
    refine List.forall₂_map_left_iff.2 (List.forall₂_map_right_iff.2 ?_)
    refine (named (Entries.keys fields)).imp fun field field' h ↦ ⟨h.1, ?_⟩
    rw [h.1]
    exact fillsField_asField h.2 required field'.1
  | record key value =>
    obtain rfl : key = .plainString := imported.here
    obtain ⟨node, item, buildsKey, -, eq⟩ := forall₂_pair_left (forall₂_builds built)
    obtain ⟨node', item', buildsKey', -, eq'⟩ := forall₂_pair_left (forall₂_builds built')
    rw [eq, eq'] at fills ⊢
    obtain ⟨-, rest⟩ := List.forall₂_cons.1 fills
    obtain rfl := buildsKey.plainString
    obtain rfl := buildsKey'.plainString
    have refers : (Node.string .plain).All (Node.Refers fun _ ↦ False) :=
      .intro trivial (by simp [Node.children])
    exact .of_ok (.of_fills (.record refers (List.forall₂_cons.1 rest).1.present) rfl rfl) trivial
  | union members =>
    exact .of_ok (.of_fills (.union (fills.imp fun _ _ h ↦ h.present)) rfl rfl) trivial
  | discriminatedUnion discriminator variants =>
    have keys : Entries.keys (Ast.entriesWithoutNullDefaults variants) = Entries.keys variants := by
      rw [Ast.entriesWithoutNullDefaults_eq, Entries.keys_map]
    have checked := checkVariants_of_imported imported built
    have checked' := checkVariants_of_imported (Ast.all_withoutNullDefaults imported) built'
    rw [keys] at checked'
    rw [Ast.withoutNullDefaults, Ast.assemble, Ast.assemble, keys, checked, checked']
    refine .of_ok (.of_fills (.discriminatedUnion ?_ discriminator) rfl rfl) trivial
    exact (named (Entries.keys variants)).imp fun _ _ h ↦ ⟨h.1, h.2.present⟩
  | optional inner default =>
    obtain ⟨node, builds, eq⟩ := forall₂_singleton_left (forall₂_builds built)
    rw [eq] at fills ⊢
    obtain ⟨node', here, eq'⟩ := forall₂_singleton_left fills
    rw [eq']
    exact kept_optional (imported.child (by simp [Ast.children])) imported.here.1 builds here
      default references references'
  | symbol | transform | lazy => exact imported.here.elim

private theorem kept_buildList {asts : List Ast}
    (each : ∀ ast ∈ asts, ∀ place place', Kept (ast.All Ast.NullDefaultAccepted)
      (fun part part' ↦ part.node.FillsField part'.node) (buildNode enclosing place ast)
      (buildNode enclosing' place' ast.withoutNullDefaults)) (i : Nat) :
    Kept (∀ ast ∈ asts, ast.All Ast.NullDefaultAccepted)
      (fun parts parts' ↦ List.Forall₂ Node.FillsField (parts.map Part.node)
        (parts'.map Part.node))
      (buildList enclosing place i asts)
      (buildList enclosing' place' i (asts.map Ast.withoutNullDefaults)) := by
  induction asts generalizing i with
  | nil => exact .of_ok .nil (by simp)
  | cons ast rest ih =>
    obtain ⟨here, later⟩ := List.forall_mem_cons.1 each
    refine Kept.congr ?_ List.forall_mem_cons
    refine (here (i :: place) (i :: place')).bind fun part part' _ _ fills ↦ ?_
    exact (ih later (i + 1)).map fun parts parts' fillsRest ↦ .cons fills fillsRest

/-- Building keeps what is read back. -/
private theorem kept_buildNode {ast : Ast} (imported : ast.All Ast.Imported)
    (enclosing enclosing' : List (Kind × Place)) (place place' : Place) :
    Kept (ast.All Ast.NullDefaultAccepted) (fun part part' ↦ part.node.FillsField part'.node)
      (buildNode enclosing place ast) (buildNode enclosing' place' ast.withoutNullDefaults) := by
  induction ast using Ast.induction generalizing enclosing enclosing' place place' with
  | step ast ih =>
    rw [buildNode_eq, buildNode_eq, Ast.children_withoutNullDefaults, Ast.all_iff, and_comm]
    refine (kept_buildList (fun child member place place' ↦
      ih child member (imported.child member) _ _ place place') 0).bind
        fun parts parts' built built' fills ↦ ?_
    rw [← Ast.children_withoutNullDefaults] at built'
    have kept := kept_assemble imported built built' fills (parts.flatMap Part.published)
      (parts'.flatMap Part.published)
    exact kept.map fun node node' fills ↦ fills

/-- Nothing in an imported description is checked only when the whole tree exists. -/
private theorem ofAst_of_imported {ast : Ast} (imported : ast.All Ast.Imported) :
    Schema.ofAst ast =
      (buildNode [] [] ast).map fun part ↦ ⟨part.node, part.published⟩ := by
  rw [Schema.ofAst]
  cases built : buildNode [] [] ast with
  | error e => rfl
  | ok part =>
    show (checkDefaults part.published part.deferred >>= _) = _
    rw [deferred_of_imported imported built]
    rfl

/-- What is read from JSON Schema, written and read back is the same description if no property that
is not required has an explicit default of null. Whatever the defaults, it builds exactly if what is
read back builds and the null defaults are accepted by their types, and then both decode with the
same errors, and to the same values up to entries that null defaults fill in. -/
theorem Schema.ofAst_persisted {schema : Json} (formed : schema.WellFormed) {ast : Ast}
    (ok : Ast.ofJsonSchema schema = .ok ast) :
    ∃ back, Ast.ofJson ast.toJson = .ok back
      ∧ (ast.All Ast.NoNullDefault → back = ast)
      ∧ ((∃ built, ofAst ast = .ok built) ↔
        (∃ rebuilt, ofAst back = .ok rebuilt) ∧ ast.All Ast.NullDefaultAccepted)
      ∧ ∀ built rebuilt, ofAst ast = .ok built → ofAst back = .ok rebuilt →
        ∀ value maxDepth, SameOutcome Value.Filled (built.decode value maxDepth)
          (rebuilt.decode value maxDepth) := by
  obtain ⟨imported, -⟩ := JsonSchema.imported_read formed ok
  have read : Ast.ofJson ast.toJson = .ok ast.withoutNullDefaults :=
    Ast.read_toJson (imported.imp fun _ ↦ Ast.Imported.formed)
      (imported.imp fun _ ↦ Ast.Imported.noSymbol) false
  have kept : Kept (ast.All Ast.NullDefaultAccepted)
      (fun built rebuilt : Schema ↦ built.root.FillsField rebuilt.root) (ofAst ast)
      (ofAst ast.withoutNullDefaults) := by
    rw [ofAst_of_imported imported, ofAst_of_imported (Ast.all_withoutNullDefaults imported)]
    exact (kept_buildNode imported [] [] [] []).map fun _ _ ↦ id
  refine ⟨ast.withoutNullDefaults, read, Ast.withoutNullDefaults_eq_self, kept.succeeds, ?_⟩
  intro built rebuilt okBuilt okRebuilt value maxDepth
  exact (kept.related built rebuilt okBuilt okRebuilt).present _ _ maxDepth maxDepth value

/-- An object with one property, which is not required: a string or null, null by default. -/
def JsonSchema.noteSchema : Json :=
  .object [("type", .string "object"),
    ("properties", .object [("note", .object [("type", .array [.string "string", .string "null"]),
      ("default", .null)])])]

/-- The struct that is read from it. -/
def Ast.note : Ast :=
  .struct [("note", .optional (.union [.plainString, .null]) (some .null))] [] .reject

/-- The schema of the note and the one that is read back decode alike, but for the note itself. -/
theorem Schema.ofAst_persisted_note :
    JsonSchema.noteSchema.WellFormed ∧ Ast.ofJsonSchema JsonSchema.noteSchema = .ok Ast.note
      ∧ ∃ back built rebuilt, Ast.ofJson Ast.note.toJson = .ok back ∧ ofAst .note = .ok built
        ∧ ofAst back = .ok rebuilt ∧ ∀ value maxDepth, SameOutcome Value.Filled
          (built.decode value maxDepth) (rebuilt.decode value maxDepth) := by
  have formed : JsonSchema.noteSchema.WellFormed := by
    simp [JsonSchema.noteSchema, Json.WellFormed, Json.WellFormedItems, Json.WellFormedMembers,
      Entries.Distinct]
  have ok : Ast.ofJsonSchema JsonSchema.noteSchema = .ok Ast.note := rfl
  obtain ⟨back, read, -, succeeds, alike⟩ := Schema.ofAst_persisted formed ok
  obtain ⟨built, builds⟩ : ∃ built, ofAst .note = .ok built := ⟨_, rfl⟩
  obtain ⟨⟨rebuilt, rebuilds⟩, -⟩ := succeeds.1 ⟨built, builds⟩
  exact ⟨formed, ok, back, built, rebuilt, read, builds, rebuilds,
    alike built rebuilt builds rebuilds⟩

/-- The null that the schema of the note fills in is lost when its description is read back. -/
theorem Schema.persisting_loses_null :
    ∃ back built rebuilt, Ast.ofJsonSchema JsonSchema.noteSchema = .ok Ast.note
      ∧ Ast.ofJson Ast.note.toJson = .ok back ∧ ofAst .note = .ok built
      ∧ ofAst back = .ok rebuilt
      ∧ built.decode (.object []) = .ok (.object [("note", .null)])
      ∧ rebuilt.decode (.object []) = .ok (.object []) :=
  ⟨.struct [("note", .optional (.union [.plainString, .null]) none)] [] .reject, _, _, rfl, rfl,
    rfl, rfl, rfl, rfl⟩

end Schemata
