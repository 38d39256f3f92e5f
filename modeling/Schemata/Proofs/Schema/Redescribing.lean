import Schemata.Proofs.Schema.Building
import Schemata.Proofs.Schema.Describing
import Schemata.Proofs.Schema.Encoding

/-!
# The description of what was built

Describing undoes building (`Schema.toAst?_ofAst`) where the description says what building keeps
(`Ast.Kept`). Both walk down with a stack. The stack of the builder holds the places of the parts
around a part, and every node with children keeps the place that it was built at, so the stack of
the description of what was built holds the same places: a reference finds the node that it was
bound to on that stack, as far up as its stub says.
-/

namespace Schemata

/-- What building keeps of a description: no transform, the required fields listed as they stand,
every stub with a depth, and defaults without symbols and of leaves only. -/
def Ast.Kept : Ast → Prop
  | .transform _ _ => False
  | .struct fields required _ => required = Ast.requiredNames fields
  | .lazy _ _ depth => depth.isSome = true
  | .optional inner (some default) => inner.kind.isLeaf = true ∧ default.SymbolFree
  | _ => True

/-! ### Leaves -/

/-- A leaf writes what it decoded from a value without symbols as that value. -/
theorem encodeAt_leaf {references : References} {limit levels hops : Nat} {node : Node}
    (leaf : node.kind.isLeaf = true) {value decoded : Value} (free : value.SymbolFree)
    (ok : decodeAt references limit levels node value = .ok decoded) :
    encodeAt references hops node decoded = value := by
  rw [encodeAt_eq]
  cases node with
  | string =>
    obtain ⟨text, rfl, -, rfl⟩ := decodeAt_string.1 ok
    rfl
  | number =>
    obtain ⟨n, rfl, -, rfl⟩ := decodeAt_number.1 ok
    rfl
  | integer =>
    obtain ⟨n, rfl, -, -, rfl⟩ := decodeAt_integer.1 ok
    rfl
  | boolean =>
    obtain ⟨b, rfl, rfl⟩ := decodeAt_boolean.1 ok
    rfl
  | null =>
    obtain ⟨rfl, rfl⟩ := decodeAt_null.1 ok
    rfl
  | symbol =>
    obtain ⟨name, rfl | rfl, rfl⟩ := decodeAt_symbol.1 ok
    · rfl
    · exact free.elim
  | literal =>
    obtain ⟨-, -, rfl⟩ := decodeAt_literal.1 ok
    cases value <;> rfl
  | _ => cases leaf

theorem StringType.constraints_of_ofConstraints {c : StringConstraints} {type : StringType}
    (ok : ofConstraints c = .ok type) : type.constraints = c := by
  unfold ofConstraints at ok
  split at ok
  · cases ok
    rfl
  · split at ok
    · cases ok
    · cases ok
      rfl

theorem LiteralType.values_of_ofValues {values : List Value} {type : LiteralType}
    (ok : ofValues values = .ok type) : type.values = values := by
  unfold ofValues at ok
  split at ok
  · cases ok
  · split at ok
    · cases ok
    · cases ok
      rfl

/-! ### Assembled nodes -/

section Assembled

variable {references : References} {enclosing : List (Kind × Place)} {place : Place}
  {nodes : List Node} {ast : Ast} {node : Node}

/-- But for transforms, an assembled node has the kind of its description, and its place unless it
has no children. -/
theorem kind_place?_of_assemble (noTransform : ast.kind ≠ .transform)
    (assembled : ast.assemble references enclosing place nodes = .ok node) :
    node.kind = ast.kind ∧ (node.place? = some place ∨ node.children = [] ∧ ast.children = []) := by
  cases ast with
  | string c =>
    obtain ⟨_, -, last⟩ := bind_eq_ok_iff.1 assembled
    cases last
    exact ⟨rfl, .inr ⟨rfl, rfl⟩⟩
  | literal values =>
    obtain ⟨_, -, last⟩ := bind_eq_ok_iff.1 assembled
    cases last
    exact ⟨rfl, .inr ⟨rfl, rfl⟩⟩
  | number | integer | boolean | null | symbol =>
    cases assembled
    exact ⟨rfl, .inr ⟨rfl, rfl⟩⟩
  | discriminatedUnion =>
    obtain ⟨_, -, last⟩ := bind_eq_ok_iff.1 assembled
    cases last
    exact ⟨rfl, .inl rfl⟩
  | optional =>
    obtain ⟨_, rfl⟩ := optional_of_assemble assembled
    exact ⟨rfl, .inl rfl⟩
  | lazy =>
    rw [Ast.assemble] at assembled
    split at assembled
    · cases assembled
      exact ⟨rfl, .inr ⟨rfl, rfl⟩⟩
    · cases assembled
  | transform => exact absurd rfl noTransform
  | _ =>
    cases assembled
    exact ⟨rfl, .inl rfl⟩

theorem isOptional_congr {ast : Ast} {node : Node} (ofKind : node.kind = ast.kind) :
    node.isOptional = ast.isOptional := by
  cases node <;> cases ast <;> first | rfl | cases ofKind

/-- Fields stay as they are where the required ones are listed. -/
private theorem map_asField {fields : List (String × Ast)} {named : List (String × Node)}
    (fit : List.Forall₂ (fun f n ↦ f.1 = n.1 ∧ n.2.isOptional = f.2.isOptional) fields named) :
    named.map (fun n ↦ (n.1, asField (Ast.requiredNames fields) n.1 n.2)) = named := by
  rw [List.map_congr_left (g := id), List.map_id]
  intro n member
  obtain ⟨f, declared, same, optional⟩ := forall₂_exists_of_mem fit.flip member
  refine Prod.ext rfl (if_pos ?_)
  rw [Bool.or_eq_true, List.contains_iff_mem]
  by_cases isOptional : f.2.isOptional = true
  · exact .inl (optional.trans isOptional)
  · have required : f ∈ fields.filter fun field ↦ !field.2.isOptional :=
      List.mem_filter.2 ⟨declared, by simpa using isOptional⟩
    exact .inr (List.mem_map.2 ⟨f, required, same⟩)

/-- The same fields are required. -/
theorem requiredNames_congr {fields : List (String × Ast)} {named : List (String × Node)}
    (fit : List.Forall₂ (fun f n ↦ f.1 = n.1 ∧ n.2.isOptional = f.2.isOptional) fields named) :
    Node.requiredNames named = Ast.requiredNames fields := by
  induction fit with
  | nil => rfl
  | @cons f n _ _ head _ ih =>
    rw [Node.requiredNames, Ast.requiredNames] at ih ⊢
    rw [List.filter_cons, List.filter_cons, head.2]
    split
    · rw [List.map_cons, List.map_cons, head.1, ih]
    · exact ih

/-- A description that building keeps is the description of the node that was assembled from it,
where its children have nodes of their kinds. -/
theorem describedBy_of_assemble (kept : ast.Kept) (notLazy : ast.kind ≠ .lazy)
    (fit : List.Forall₂ (fun child node ↦ node.kind = child.kind) ast.children nodes)
    (assembled : ast.assemble references enclosing place nodes = .ok node) :
    node.children = nodes ∧ node.describedBy references ast.children = ast := by
  cases ast with
  | string c =>
    obtain ⟨type, ok, last⟩ := bind_eq_ok_iff.1 assembled
    cases last
    cases fit
    exact ⟨rfl, congrArg Ast.string (StringType.constraints_of_ofConstraints ok)⟩
  | literal values =>
    obtain ⟨type, ok, last⟩ := bind_eq_ok_iff.1 assembled
    cases last
    cases fit
    exact ⟨rfl, congrArg Ast.literal (LiteralType.values_of_ofValues ok)⟩
  | number | integer | boolean | null | symbol =>
    cases assembled
    cases fit
    exact ⟨rfl, rfl⟩
  | array =>
    cases assembled
    obtain ⟨n, -, rfl⟩ := forall₂_singleton_left fit
    exact ⟨rfl, rfl⟩
  | tuple | union =>
    cases assembled
    exact ⟨rfl, rfl⟩
  | struct fields required extraKeys =>
    obtain rfl : required = Ast.requiredNames fields := kept
    have length : nodes.length = fields.length := by
      simpa [Ast.children, Entries.values] using fit.length_eq.symm
    have named := (Entries.forall₂_zip_keys fit).imp fun f n h ↦
      And.intro h.1 (isOptional_congr h.2)
    cases assembled
    simp only [map_asField named, Node.children, Node.describedBy, Ast.children,
      Entries.keys_zip length, Entries.values_zip length, Entries.zip_keys_values,
      requiredNames_congr named, and_self]
  | record =>
    cases assembled
    obtain ⟨k, v, -, -, rfl⟩ := forall₂_pair_left fit
    exact ⟨rfl, rfl⟩
  | discriminatedUnion discriminator variants =>
    have length : nodes.length = variants.length := by
      simpa [Ast.children, Entries.values] using fit.length_eq.symm
    obtain ⟨_, -, last⟩ := bind_eq_ok_iff.1 assembled
    cases last
    simp only [Node.children, Node.describedBy, Ast.children, Entries.keys_zip length,
      Entries.values_zip length, Entries.zip_keys_values, and_self]
  | optional inner default =>
    obtain ⟨n, ofKind, rfl⟩ := forall₂_singleton_left fit
    cases default with
    | none =>
      cases assembled
      exact ⟨rfl, rfl⟩
    | some default =>
      obtain ⟨leaf, free⟩ := kept
      have noStub : inner.hasStub = false := by
        cases inner <;> first | rfl | cases leaf
      rw [Ast.assemble, noStub] at assembled
      obtain ⟨decoded, ok, rfl⟩ := optionalWithDefault_eq_ok assembled
      have written : encodeAt references defaultMaxDepth n decoded = default :=
        encodeAt_leaf (by rw [ofKind, leaf]) free ok
      refine ⟨rfl, ?_⟩
      simp only [Node.describedBy, Ast.children, Option.map_some, List.getD_cons_zero, written]
  | transform => exact kept.elim
  | lazy => exact absurd rfl notLazy

end Assembled

/-! ### The stack -/

/-- The places above a place, innermost first. -/
def Place.above : Place → List (Option Place)
  | [] => []
  | _ :: rest => some rest :: above rest

theorem Place.getElem?_above (place : Place) (j : Nat) :
    (above place)[j]? = if j < place.length then some (some (place.drop (j + 1))) else none := by
  induction place generalizing j with
  | nil => simp [above]
  | cons i rest ih =>
    cases j with
    | zero => simp [above]
    | succ j => simpa [above] using ih j

/-- A place is found above another as far up as it stands. -/
theorem distanceTo?_above {place : Place} {up : Nat} (pos : 1 ≤ up) (le : up ≤ place.length) :
    distanceTo? place.above (some (place.drop up)) = some up := by
  obtain ⟨k, rfl⟩ : ∃ k, up = k + 1 := ⟨up - 1, by omega⟩
  have at_ (j : Nat) (lt : j < place.length) :
      ∃ h : j < place.above.length, place.above[j] = some (place.drop (j + 1)) := by
    rw [← List.getElem?_eq_some_iff, Place.getElem?_above, if_pos lt]
  obtain ⟨lt, here⟩ := at_ k (by omega)
  rw [distanceTo?, Option.map_eq_some_iff]
  refine ⟨k, List.findIdx?_eq_some_iff_getElem.2 ⟨lt, by simp [here], fun j inside ↦ ?_⟩, rfl⟩
  obtain ⟨_, there⟩ := at_ j (by omega)
  rw [there]
  simp only [beq_iff_eq, Option.some.injEq]
  intro same
  have lengths := congrArg List.length same
  rw [List.length_drop, List.length_drop] at lengths
  omega

/-! ### The whole description -/

section Whole

variable {root : Ast} {schema : Schema} (built : Schema.ofAst root = .ok schema)
  (kept : root.All Ast.Kept)

include built kept in
/-- Every part has a node of its kind, and the node of a part with children stands at its place. -/
private theorem node_at {around : List Ast} {place : Place} {part : Ast}
    (partAt : root.At around place part) :
    (schema.references.resolve place).kind = part.kind
      ∧ (part.children ≠ [] → (schema.references.resolve place).place? = some place) := by
  obtain ⟨p, -, found, assembled⟩ := Schema.assembled_of_ofAst built partAt
  have noTransform : part.kind ≠ .transform := by
    have here := (kept.at partAt).here
    cases part with
    | transform => exact here.elim
    | _ => simp [Ast.kind]
  rw [References.resolve, found, Option.getD_some]
  obtain ⟨kindEq, placed⟩ := kind_place?_of_assemble noTransform assembled
  exact ⟨kindEq, fun branch ↦ placed.resolve_right fun none ↦ branch none.2⟩

include built kept in
/-- A stub is described by the distance that it had. -/
private theorem describeNode_stub {around : List Ast} {place : Place} {name : String} {kind : Kind}
    {depth : Option Nat} (partAt : root.At around place (.lazy name kind depth))
    (inline : Describer) :
    describeNode schema.references inline place.above (schema.references.resolve place) =
      some (.lazy name kind depth) := by
  obtain ⟨p, -, found, assembled⟩ := Schema.assembled_of_ofAst built partAt
  obtain ⟨k, rfl⟩ := Option.isSome_iff_exists.1 (kept.at partAt).here
  rw [Ast.assemble] at assembled
  split at assembled
  · next reference designated =>
    rw [← Except.ok.inj assembled] at found
    obtain ⟨up, target, designates, rfl⟩ := (designated?_eq_some_iff partAt.length_eq).1 designated
    obtain rfl := designates.atDepth k rfl
    have pos := designates.pos
    have inside := (List.getElem?_eq_some_iff.1 designates.found).1
    have targetAt := partAt.above designates.found
    rw [Nat.sub_add_cancel pos] at targetAt
    obtain ⟨kindEq, placeEq⟩ := node_at built kept targetAt
    have placeEq := placeEq (partAt.children_ne_nil designates.found)
    rw [References.resolve, found, Option.getD_some, describeNode]
    have within : up ≤ place.length := by
      rw [← partAt.length_eq]
      omega
    simp only [placeEq, kindEq, designates.ofKind, distanceTo?_above pos within]
  · cases assembled

include built kept in
/-- What is built from a part is described as the part. -/
private theorem describeNode_at {around : List Ast} {place : Place} {part : Ast}
    (partAt : root.At around place part) (inline : Describer) :
    describeNode schema.references inline place.above (schema.references.resolve place) =
      some part := by
  induction part using Ast.induction generalizing around place with
  | step part ih =>
    obtain ⟨kindEq, placeEq⟩ := node_at built kept partAt
    by_cases notLazy : part.kind = .lazy
    · cases part with
      | lazy => exact describeNode_stub built kept partAt inline
      | _ => cases notLazy
    · obtain ⟨p, -, found, assembled⟩ := Schema.assembled_of_ofAst built partAt
      have resolved : schema.references.resolve place = p.node := by
        rw [References.resolve, found, Option.getD_some]
      have childAt (i : Nat) (h : i < part.children.length) :
          root.At (part :: around) (i :: place) part.children[i] :=
        partAt.child (List.getElem?_eq_getElem h)
      have fit : List.Forall₂ (fun child node ↦ node.kind = child.kind) part.children
          (schema.references.below place part.children.length) := by
        refine List.forall₂_iff_get.2 ⟨by simp [References.below], fun i h h' ↦ ?_⟩
        simpa [References.below] using (node_at built kept (childAt i h)).1
      obtain ⟨children, described⟩ :=
        describedBy_of_assemble (kept.at partAt).here notLazy fit assembled
      rw [resolved] at kindEq placeEq ⊢
      rw [describeNode_eq (by rw [kindEq]; exact notLazy), Option.map_eq_some_iff]
      refine ⟨part.children, describeList_eq_some_iff.2 ?_, described⟩
      rw [children]
      refine List.forall₂_iff_get.2 ⟨by simp [References.below], fun i h h' ↦ ?_⟩
      have inside : i < part.children.length := h'
      have branch : part.children ≠ [] := List.ne_nil_of_length_pos (by omega)
      have below := ih _ (List.getElem_mem inside) (childAt i inside)
      rw [placeEq branch]
      simpa [References.below, Place.above] using below

end Whole

/-- Describing what was built from a description gives the description back. -/
theorem Schema.toAst?_ofAst {ast : Ast} (kept : ast.All Ast.Kept) {schema : Schema}
    (built : Schema.ofAst ast = .ok schema) : schema.toAst? = some ast := by
  have root : schema.references.resolve [] = schema.root := by
    rw [References.resolve, Schema.root_of_ofAst built, Option.getD_some]
  have described := describeNode_at built kept .root
    (inlineAt schema.references ((schema.references.length + 1) * (schema.references.length + 1)))
  rw [Schema.toAst?, describeAt_eq, ← root]
  exact described

/-- A comment: its author, a mark and votes that have defaults, and replies that are comments. -/
def Ast.comment : Ast :=
  .struct
    [("author", .string {}), ("mark", .optional .symbol (some (.string "new"))),
      ("votes", .optional (.integer {}) (some (.number (.integer 0 (by decide))))),
      ("replies", .array (.lazy "comment" .struct (some 2)) {})]
    ["author", "replies"] .reject

/-- The description of a comment comes back from its schema, its stub and its defaults included. -/
theorem Schema.toAst?_ofAst_comment :
    Ast.comment.All Ast.Kept ∧ ∃ schema, Schema.ofAst .comment = .ok schema
      ∧ schema.toAst? = some .comment := by
  have kept : Ast.comment.All Ast.Kept := by
    simp [Ast.comment, Ast.all_iff (.struct _ _ _), Ast.all_iff (.string _),
      Ast.all_iff (.optional _ _), Ast.all_iff .symbol, Ast.all_iff (.integer _),
      Ast.all_iff (.array _ _), Ast.all_iff (.lazy _ _ _), Ast.children, Entries.values, Ast.Kept,
      Ast.requiredNames, Ast.isOptional, Ast.kind, Kind.isLeaf, Value.SymbolFree]
  obtain ⟨schema, built⟩ : ∃ schema, Schema.ofAst .comment = .ok schema := ⟨_, rfl⟩
  exact ⟨kept, schema, built, toAst?_ofAst kept built⟩

end Schemata
