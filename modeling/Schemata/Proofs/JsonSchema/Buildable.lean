import Schemata.Proofs.JsonSchema.Importing
import Schemata.Proofs.Schema.Redescribing

/-!
# Building what was read from JSON Schema

A description that was read from JSON Schema satisfies every check of shape that building makes, so
it can be refused only for what reading does not look into: whether a pattern compiles, whether a
default decodes, and whether the values of a literal are scalars (`Ast.Refused`). The tags of
variants, which reading finds in the description and building in the nodes, are never at fault.
-/

namespace Schemata

variable {enclosing : List (Kind × Place)} {place : Place}

/-! ### Variants -/

/-- Variants that fit their tags, which are distinct, pass their check. -/
theorem Node.checkVariants_of_fits {discriminator : String} {seen : List String}
    {variants : List (String × Node)} (nonempty : variants = [] → seen ≠ [])
    (distinct : Entries.Distinct variants) (fresh : ∀ tag ∈ Entries.keys variants, tag ∉ seen)
    (fits : ∀ tag variant, (tag, variant) ∈ variants →
      variantFault? discriminator tag variant = none) :
    checkVariants discriminator seen variants = .ok () := by
  induction variants generalizing seen with
  | nil =>
    have before : seen.isEmpty = false := by simpa using nonempty rfl
    rw [checkVariants, before]
    rfl
  | cons entry rest ih =>
    obtain ⟨tag, variant⟩ := entry
    obtain ⟨new, distinctRest⟩ := List.nodup_cons.1 distinct
    obtain ⟨freshHere, freshRest⟩ := List.forall_mem_cons.1 fresh
    rw [checkVariants, fits tag variant List.mem_cons_self]
    have unseen : seen.contains tag = false := by simpa using freshHere
    simp only [unseen, Bool.false_eq_true, if_false]
    refine ih (fun _ ↦ by simp) distinctRest (fun other member again ↦ ?_)
      fun t v member ↦ fits t v (List.mem_cons_of_mem _ member)
    rcases List.mem_cons.1 again with rfl | before
    · exact new member
    · exact freshRest other member before

/-- A node is what a description builds somewhere. -/
def Builds (ast : Ast) (node : Node) : Prop :=
  ∃ enclosing place part, buildNode enclosing place ast = .ok part ∧ part.node = node

theorem forall₂_builds {asts : List Ast} {parts : List Part} {i : Nat}
    (built : buildList enclosing place i asts = .ok parts) :
    List.Forall₂ Builds asts (parts.map Part.node) := by
  induction asts generalizing parts i with
  | nil =>
    cases built
    exact .nil
  | cons ast rest ih =>
    obtain ⟨part, later, here, tail, rfl⟩ := buildList_cons.1 built
    exact .cons ⟨_, _, part, here, rfl⟩ (ih tail)

/-- What a description builds is assembled from what its children build. -/
theorem Builds.exists_assemble {ast : Ast} {node : Node} (builds : Builds ast node) :
    ∃ references enclosing place nodes, List.Forall₂ Builds ast.children nodes
      ∧ ast.assemble references enclosing place nodes = .ok node := by
  obtain ⟨enclosing, place, part, built, rfl⟩ := builds
  obtain ⟨parts, node, children, assembled, rfl⟩ := buildNode_eq_ok_iff.1 built
  exact ⟨_, enclosing, place, _, forall₂_builds children, assembled⟩

theorem Builds.plainString {node : Node} (builds : Builds .plainString node) :
    node = .string .plain := by
  obtain ⟨_, _, _, built, rfl⟩ := builds
  cases built
  rfl

/-- What an optional description builds is optional. -/
theorem Builds.optional {inner : Ast} {default : Option Value} {node : Node}
    (builds : Builds (.optional inner default) node) :
    ∃ place node' default', Builds inner node' ∧ node = .optional place node' default' := by
  obtain ⟨_, _, place, _, children, assembled⟩ := builds.exists_assemble
  obtain ⟨node', buildsInner, rfl⟩ := forall₂_singleton_left children
  obtain ⟨default', rfl⟩ := optional_of_assemble assembled
  exact ⟨_, node', default', buildsInner, rfl⟩

private theorem Builds.literal {values : List Value} {node : Node}
    (builds : Builds (.literal values) node) :
    ∃ type, node = .literal type ∧ type.values = values := by
  obtain ⟨_, _, _, _, -, assembled⟩ := builds.exists_assemble
  obtain ⟨type, ok, last⟩ := bind_eq_ok_iff.1 assembled
  cases last
  exact ⟨type, rfl, LiteralType.values_of_ofValues ok⟩

/-- What is built from a tagged struct fits the tag. -/
private theorem Builds.fits {discriminator tag : String} {variant : Ast} {node : Node}
    (builds : Builds variant node) (tagged : variant.TaggedBy discriminator tag)
    (imported : variant.Imported) : Node.variantFault? discriminator tag node = none := by
  obtain ⟨fields, required, extraKeys, value, rfl, found, key⟩ := tagged
  obtain ⟨_, _, _, nodes, children, assembled⟩ := builds.exists_assemble
  cases assembled
  have related := Entries.Related.of_forall₂ (Entries.forall₂_zip_keys children)
  obtain ⟨_, foundNode, builtLiteral⟩ := related.some_left found
  obtain ⟨type, rfl, values⟩ := builtLiteral.literal
  have isRequired : discriminator ∈ required :=
    (imported.2.2 discriminator).2 ⟨_, found, rfl⟩
  have kept : asField required discriminator (.literal type) = .literal type := by
    rw [asField, if_pos (by simp [isRequired])]
  simp [Node.variantFault?, Entries.get?_map_keyed (asField required), foundNode, kept, values, key]

/-! ### Errors -/

namespace Ast

/-- Why building an imported description can fail: a pattern does not compile, a default does not
decode, or a literal holds a value that is neither a string nor a number nor a truth value. -/
inductive Refused (root : Ast) : SchemaError → Prop where
  /-- The pattern of a string does not compile. -/
  | pattern {around : List Ast} {place : List Nat} {c : StringConstraints} {format : String}
      (partAt : root.At around place (.string c)) (constrained : c.format = some format)
      (malformed : Pattern.parse? format = none) : Refused root (.invalidPattern format)
  /-- The default of an optional part does not decode. -/
  | default {around : List Ast} {place : List Nat} {inner : Ast} {default : Value}
      (cause : DecodeError) (partAt : root.At around place (.optional inner (some default))) :
      Refused root (.invalidDefault cause)
  /-- A literal holds a value that is not a scalar. -/
  | literal {around : List Ast} {place : List Nat} {values : List Value} {value : Value}
      (partAt : root.At around place (.literal values)) (among : value ∈ values)
      (notScalar : value.isScalar = false) :
      Refused root (.unsupported (.literalValue value.kind))

/-- What a part is refused for, the whole is refused for. -/
theorem Refused.of_part {root part : Ast} {around : List Ast} {place : List Nat}
    {error : SchemaError} (partAt : root.At around place part) (refused : part.Refused error) :
    root.Refused error := by
  cases refused with
  | pattern inPart constrained malformed =>
    exact .pattern (partAt.trans inPart) constrained malformed
  | default cause inPart => exact .default cause (partAt.trans inPart)
  | literal inPart among notScalar => exact .literal (partAt.trans inPart) among notScalar

end Ast

private theorem exists_of_buildList_error {asts : List Ast} {i : Nat} {error : SchemaError}
    (failed : buildList enclosing place i asts = .error error) :
    ∃ (j : Nat) (ast : Ast) (place' : Place), asts[j]? = some ast
      ∧ buildNode enclosing place' ast = .error error := by
  induction asts generalizing i with
  | nil => cases failed
  | cons ast rest ih =>
    rw [buildList] at failed
    rcases bind_eq_error_iff.1 failed with here | ⟨part, -, later⟩
    · exact ⟨0, ast, _, rfl, here⟩
    · rcases bind_eq_error_iff.1 later with tail | ⟨_, -, last⟩
      · obtain ⟨j, child, place', found, failedChild⟩ := ih tail
        exact ⟨j + 1, child, place', by simpa using found, failedChild⟩
      · cases last

/-- The variants of an imported description pass their check when they are built. -/
theorem checkVariants_of_imported {discriminator : String} {variants : Entries Ast}
    {parts : List Part}
    (imported : (Ast.discriminatedUnion discriminator variants).All Ast.Imported)
    (built : buildList enclosing place 0 (Entries.values variants) = .ok parts) :
    Node.checkVariants discriminator [] ((Entries.keys variants).zip (parts.map Part.node)) =
      .ok () := by
  obtain ⟨nonempty, distinct, tagged⟩ := imported.here
  have length : (parts.map Part.node).length = variants.length := by
    rw [List.length_map, length_of_buildList built, Entries.values, List.length_map]
  have names := Entries.keys_zip length
  have fit := Entries.forall₂_zip_keys (forall₂_builds built)
  refine Node.checkVariants_of_fits (fun none ↦ ?_) (by rwa [Entries.Distinct, names]) (by simp)
    fun tag node member ↦ ?_
  · rw [none] at names
    exact absurd (List.map_eq_nil_iff.1 names.symm) nonempty
  · obtain ⟨⟨_, variant⟩, among, rfl, builds⟩ := forall₂_exists_of_mem fit.flip member
    have isChild : variant ∈ (Ast.discriminatedUnion discriminator variants).children :=
      List.mem_map_of_mem among
    exact builds.fits (tagged _ variant among) (imported.child isChild).here

private theorem refused_of_assemble {ast : Ast} (imported : ast.All Ast.Imported)
    {references : References} {parts : List Part} {error : SchemaError}
    (built : buildList ((ast.kind, place) :: enclosing) place 0 ast.children = .ok parts)
    (failed : ast.assemble references enclosing place (parts.map Part.node) = .error error) :
    ast.Refused error := by
  cases ast with
  | string c =>
    rcases bind_eq_error_iff.1 failed with invalid | ⟨_, -, last⟩
    · unfold StringType.ofConstraints at invalid
      split at invalid
      · cases invalid
      · next format constrained =>
        split at invalid
        · next malformed =>
          cases invalid
          exact .pattern .root constrained malformed
        · cases invalid
    · cases last
  | literal values =>
    rcases bind_eq_error_iff.1 failed with invalid | ⟨_, -, last⟩
    · rw [LiteralType.ofValues, dif_neg imported.here.1] at invalid
      split at invalid
      · next bad found =>
        cases invalid
        refine .literal .root (List.mem_of_find?_eq_some found) ?_
        simpa using List.find?_some found
      · cases invalid
    · cases last
  | discriminatedUnion discriminator variants =>
    rcases bind_eq_error_iff.1 failed with invalid | ⟨_, -, last⟩
    · rw [checkVariants_of_imported imported built] at invalid
      cases invalid
    · cases last
  | optional inner default =>
    cases default with
    | none => cases failed
    | some default =>
      rw [Ast.assemble] at failed
      split at failed
      · cases failed
      · rw [optionalWithDefault] at failed
        split at failed
        · cases failed
        · next cause _ =>
          cases failed
          exact .default cause .root
  | symbol | transform | lazy => exact imported.here.elim
  | _ => cases failed

/-- Building an imported description fails for nothing else. -/
theorem refused_of_buildNode {ast : Ast} (imported : ast.All Ast.Imported) {error : SchemaError}
    (failed : buildNode enclosing place ast = .error error) : ast.Refused error := by
  induction ast using Ast.induction generalizing enclosing place with
  | step ast ih =>
    rw [buildNode_eq] at failed
    rcases bind_eq_error_iff.1 failed with child | ⟨parts, built, later⟩
    · obtain ⟨i, child, _, found, failedChild⟩ := exists_of_buildList_error child
      have isChild := List.mem_of_getElem? found
      exact (ih child isChild (imported.child isChild) failedChild).of_part (.child .root found)
    · rcases bind_eq_error_iff.1 later with assembling | ⟨_, -, last⟩
      · exact refused_of_assemble imported built assembling
      · cases last

/-! ### Defaults -/

theorem hasStub_of_imported {ast : Ast} (imported : ast.All Ast.Imported) :
    ast.hasStub = false := by
  induction ast using Ast.induction with
  | step ast ih =>
    rw [Ast.hasStub_eq, Bool.or_eq_false_iff, Ast.anyStub_eq_false_iff]
    refine ⟨fun child member ↦ ih child member (imported.child member), ?_⟩
    cases ast with
    | lazy => exact imported.here.elim
    | _ => rfl

/-- Without stubs, every default is decoded at once. -/
theorem deferred_of_imported {ast : Ast} (imported : ast.All Ast.Imported) {part : Part}
    (built : buildNode enclosing place ast = .ok part) : part.deferred = [] := by
  induction ast using Ast.induction generalizing enclosing place part with
  | step ast ih =>
    obtain ⟨parts, node, children, -, rfl⟩ := buildNode_eq_ok_iff.1 built
    have below : parts.flatMap Part.deferred = [] := by
      refine List.flatMap_eq_nil_iff.2 fun part among ↦ ?_
      obtain ⟨child, isChild, _, builtChild⟩ := exists_of_mem_buildList children among
      exact ih child isChild (imported.child isChild) builtChild
    have here (nodes : List Node) : ast.deferred nodes = [] := by
      cases ast with
      | optional inner default =>
        cases default with
        | none => rfl
        | some default =>
          have noStub := hasStub_of_imported (imported.child (by simp [Ast.children] : inner ∈ _))
          rw [Ast.deferred, noStub]
          rfl
      | _ => rfl
    rw [below, here]
    rfl

/-- What is read from JSON Schema lists as required exactly the fields that are not optional, holds
no stub, transform or symbol, and builds, or is refused for a pattern, a default or a literal that
holds a value that is not a scalar. Its variants are never at fault. -/
theorem Ast.ofJsonSchema_builds {schema : Json} (formed : schema.WellFormed) {ast : Ast}
    (ok : Ast.ofJsonSchema schema = .ok ast) :
    ast.All Ast.RequiredListed
      ∧ ast.All (fun part ↦ part.kind ≠ .lazy ∧ part.kind ≠ .transform ∧ part.kind ≠ .symbol)
      ∧ ((∃ built, Schema.ofAst ast = .ok built)
        ∨ ∃ error, Schema.ofAst ast = .error error ∧ ast.Refused error)
      ∧ ∀ tag fault, Schema.ofAst ast ≠ .error (.invalidVariant tag fault) := by
  obtain ⟨imported, -⟩ := JsonSchema.imported_read formed ok
  have refused {error : SchemaError} (failed : Schema.ofAst ast = .error error) :
      ast.Refused error := by
    rcases bind_eq_error_iff.1 failed with building | ⟨part, built, later⟩
    · exact refused_of_buildNode imported building
    · rw [deferred_of_imported imported built] at later
      cases later
  refine ⟨imported.imp fun part here ↦ ?_, imported.imp fun part here ↦ ?_, ?_, fun _ _ failed ↦ ?_⟩
  · cases part with
    | struct => exact here.2
    | _ => trivial
  · cases part with
    | symbol | transform | lazy => exact here.elim
    | _ => simp [Ast.kind]
  · cases built : Schema.ofAst ast with
    | ok schema => exact .inl ⟨schema, rfl⟩
    | error error => exact .inr ⟨error, rfl, refused built⟩
  · cases refused failed

/-- Two alternatives: an account is tagged by a constant; the other one has an optional field in
place of the tag, with a default that is not among its constants. -/
def JsonSchema.accountsSchema : Json :=
  .object [("oneOf", .array
    [.object [("type", .string "object"),
        ("properties", .object [("id", .object [("type", .string "integer")]),
          ("kind", .object [("const", .string "account")])]),
        ("required", .array [.string "kind", .string "owner", .string "kind"])],
      .object [("type", .string "object"),
        ("properties", .object [("kind", .object [("type", .string "string")]),
          ("level", .object [("enum", .array [.number (.ofCount 1)]), ("default", .null)])])]])]

/-- The discriminated union of the two. -/
def Ast.accounts : Ast :=
  .discriminatedUnion "kind"
    [("account", .struct
      [("id", .optional (.integer {}) none), ("kind", .literal [.string "account"])] ["kind"]
        .reject),
    ("variant_1", .struct
      [("kind", .literal [.string "variant_1"]),
        ("level", .optional (.literal [.number (.ofCount 1)]) (some .null))] ["kind"] .reject)]

/-- The two alternatives have their tags, and only the default is at fault. -/
theorem Ast.ofJsonSchema_builds_accounts :
    JsonSchema.accountsSchema.WellFormed
      ∧ Ast.ofJsonSchema JsonSchema.accountsSchema = .ok Ast.accounts
      ∧ Ast.accounts.All Ast.RequiredListed
      ∧ ∃ cause, Schema.ofAst .accounts = .error (.invalidDefault cause) := by
  have formed : JsonSchema.accountsSchema.WellFormed := by
    simp [JsonSchema.accountsSchema, Json.WellFormed, Json.WellFormedItems, Json.WellFormedMembers,
      Entries.Distinct]
  have ok : Ast.ofJsonSchema JsonSchema.accountsSchema = .ok Ast.accounts := rfl
  exact ⟨formed, ok, (Ast.ofJsonSchema_builds formed ok).1, _, rfl⟩

end Schemata
