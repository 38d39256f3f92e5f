import Schemata.Proofs.Schema.DescribingEnds

/-!
# Required fields

The description of a struct lists the fields that the struct insists on, and describes each field
(`Schema.toAst?_required`). The two views of a field agree, with one exception that is left out
here: a reference that is described by the optional node it stands for. Building trusts the
description of a field where that is optional, and does not keep transforms, so what becomes
optional is what the field is built from (`Ast.buildsOptional`), not what is listed.
-/

namespace Schemata

/-- The nodes that a description shows at a place: the root, the children of what is shown at the
place above, and what a reference that would be shown stands for. -/
inductive Schema.Shown (schema : Schema) : Place → Node → Prop where
  /-- The root is shown at the place of the whole. -/
  | root : Shown schema [] schema.root
  /-- Children are shown in order. -/
  | child {place : Place} {parent child : Node} {i : Nat} (above : Shown schema place parent)
    (found : parent.children[i]? = some child) : Shown schema (i :: place) child
  /-- What a reference stands for is shown in its stead. -/
  | target {place : Place} {name : String} {reference : Place}
    (edge : Shown schema place (.lazy name reference)) :
    Shown schema place (schema.references.resolve reference)

/-- Whether a description builds an optional node: transforms are not kept. -/
def Ast.buildsOptional : Ast → Bool
  | .optional _ _ => true
  | .transform inner _ => inner.buildsOptional
  | _ => false

/-! ### What is shown at a place -/

section Shown

variable {schema : Schema}

/-- What holds throughout a schema holds throughout what is shown. -/
theorem Schema.Shown.all {p : Node → Prop} (all : schema.All p) {place : Place} {node : Node}
    (shown : schema.Shown place node) : node.All p := by
  induction shown with
  | root => exact all.root
  | child _ found ih => exact ih.child (List.mem_of_getElem? found)
  | target => exact all.resolved _

/-- At the place of the whole nothing but the root is shown, if that is no reference. -/
theorem Schema.Shown.eq_root (notLazy : schema.root.kind ≠ .lazy) {node : Node}
    (shown : schema.Shown [] node) : node = schema.root := by
  generalize atRoot : ([] : Place) = place at shown
  induction shown with
  | root => rfl
  | child => cases atRoot
  | target _ ih =>
    rw [← ih atRoot] at notLazy
    exact absurd rfl notLazy

/-- A node shown at a place is described there. What is shown is a reference only where its
description is a stub. -/
def Schema.Describes (schema : Schema) (place : Place) (node : Node) (part : Ast) : Prop :=
  schema.Shown place node ∧ (node.kind = .lazy → part.kind = .lazy)
    ∧ ∃ hops stack, describeAt schema.references hops stack node = some part

/-- A reference is described by a stub or by what it stands for. -/
private theorem describeAt_lazy {references : References} {hops : Nat}
    {stack : List (Option Place)} {name : String} {reference : Place} {part : Ast}
    (described : describeAt references hops stack (.lazy name reference) = some part) :
    part.kind = .lazy ∨ ∃ fewer, hops = fewer + 1
      ∧ describeAt references fewer stack (references.resolve reference) = some part := by
  rw [describeAt_eq, describeNode] at described
  split at described
  · cases described
    exact .inl rfl
  · cases hops with
    | zero => cases described
    | succ fewer => exact .inr ⟨fewer, rfl, described⟩

/-- What is described where a node is shown is the node or what it leads to as a reference. -/
private theorem exists_describes {hops : Nat} {stack : List (Option Place)} {place : Place}
    {node : Node} {part : Ast} (shown : schema.Shown place node)
    (described : describeAt schema.references hops stack node = some part) :
    ∃ node, schema.Describes place node part := by
  induction hops using Nat.strongRecOn generalizing node with
  | ind hops ih =>
    by_cases isLazy : node.kind = .lazy
    · cases node with
      | lazy name reference =>
        rcases describeAt_lazy described with stub | ⟨fewer, rfl, target⟩
        · exact ⟨_, shown, fun _ ↦ stub, hops, stack, described⟩
        · exact ih fewer (Nat.lt_succ_self fewer) shown.target target
      | _ => cases isLazy
    · exact ⟨node, shown, fun lazy ↦ absurd lazy isLazy, hops, stack, described⟩

/-- Every part of a description describes a node that is shown at its place. -/
theorem Schema.describes_of_at {ast : Ast} (described : schema.toAst? = some ast)
    {around : List Ast} {place : Place} {part : Ast} (partAt : ast.At around place part) :
    ∃ node, schema.Describes place node part := by
  induction partAt with
  | root => exact exists_describes .root described
  | @child around place parent child i parentAt found ih =>
    obtain ⟨node, shown, stub, hops, stack, describes⟩ := ih
    have notLazy : node.kind ≠ .lazy := by
      intro isLazy
      cases parent with
      | lazy => simp [Ast.children] at found
      | _ => cases stub isLazy
    clear stub
    rw [describeAt_eq, describeNode_eq notLazy, Option.map_eq_some_iff] at describes
    obtain ⟨asts, each, rfl⟩ := describes
    have each := describeList_eq_some_iff.1 each
    rw [(Node.children_describedBy notLazy each.length_eq).1] at found
    obtain ⟨inside, rfl⟩ := List.getElem?_eq_some_iff.1 found
    have inside' : i < node.children.length := each.length_eq ▸ inside
    have here := each.get inside' inside
    rw [← describeAt_eq] at here
    exact exists_describes (shown.child (List.getElem?_eq_getElem inside')) here

end Shown

/-- A node that is no reference is described by a node of its kind. -/
theorem isOptional_of_describeNode {references : References} {inline : Describer}
    {stack : List (Option Place)} {node : Node} {ast : Ast} (notLazy : node.kind ≠ .lazy)
    (described : describeNode references inline stack node = some ast) :
    node.isOptional = ast.isOptional := by
  rw [describeNode_eq notLazy, Option.map_eq_some_iff] at described
  obtain ⟨asts, each, rfl⟩ := described
  have length := (describeList_eq_some_iff.1 each).length_eq
  exact isOptional_congr (Node.children_describedBy notLazy length).2.symm

/-- A field that is not listed becomes optional. -/
theorem isOptional_asField (required : List String) (name : String) (node : Node) :
    (asField required name node).isOptional = (node.isOptional || !required.contains name) := by
  rw [asField]
  split
  · next kept =>
    rw [Bool.or_eq_true] at kept
    rcases kept with isOptional | listed
    · rw [isOptional, Bool.true_or]
    · rw [listed, Bool.not_true, Bool.or_false]
  · next made =>
    rw [Bool.not_eq_true, Bool.or_eq_false_iff] at made
    rw [made.1, made.2]
    rfl

/-! ### What is built at a place -/

section Built

variable {root : Ast} {schema : Schema} (built : Schema.ofAst root = .ok schema)

include built

/-- What is built from a part is optional where the part is, transforms around it aside. -/
theorem isOptional_resolve_of_at {around : List Ast} {place : Place} {part : Ast}
    (partAt : root.At around place part) :
    (schema.references.resolve place).isOptional = part.buildsOptional := by
  induction part using Ast.induction generalizing around place with
  | step part ih =>
    by_cases isTransform : part.kind = .transform
    · cases part with
      | transform inner target =>
        rw [resolve_transform built partAt, Ast.buildsOptional]
        exact ih inner (List.mem_singleton.2 rfl) (.child partAt rfl)
      | _ => cases isTransform
    · have kind := (kind_place?_of_assemble isTransform (resolve_of_at built partAt)).1
      rw [isOptional_congr kind]
      cases part with
      | transform => exact absurd rfl isTransform
      | _ => rfl

/-- In the struct that is built, a field must be present if it is listed and what it is built from
is not optional. -/
theorem Schema.mem_requiredNames_of_at {around : List Ast} {place : Place}
    {fields : List (String × Ast)} {required : List String} {extraKeys : ExtraKeys}
    (structAt : root.At around place (.struct fields required extraKeys))
    (distinct : Entries.Distinct fields) {name : String} {field : Ast}
    (declared : (name, field) ∈ fields) :
    ∃ nodes, schema.references.resolve place = .struct (some place) nodes extraKeys
      ∧ (name ∈ Node.requiredNames nodes ↔ name ∈ required ∧ field.buildsOptional = false) := by
  obtain ⟨nodes, resolved, keys, named⟩ := Schema.struct_at built structAt
  obtain ⟨i, found⟩ := List.mem_iff_getElem?.1 declared
  have distinctNodes : Entries.Distinct nodes := by
    rw [Entries.Distinct, keys]
    exact distinct
  refine ⟨nodes, resolved, ?_⟩
  rw [Node.mem_requiredNames distinctNodes (named i name field found), isOptional_asField,
    isOptional_resolve_of_at built (structAt.field found), Bool.or_eq_false_iff,
    Bool.not_eq_false', List.contains_iff_mem, and_comm]

end Built

/-- In every struct of a description, `required` lists field names in order and once at most. A
field that is not a reference described by the optional node it stands for is listed if and only if
its description is not optional. Where a schema is built from the description, such a field is
required in the struct at the same place if and only if the described struct insists on it and its
description does not build an optional node. -/
theorem Schema.toAst?_required {schema : Schema} (formed : schema.All Node.Formed) {ast : Ast}
    (described : schema.toAst? = some ast) {around : List Ast} {place : Place}
    {fields : List (String × Ast)} {required : List String} {extraKeys : ExtraKeys}
    (structAt : ast.At around place (.struct fields required extraKeys)) :
    required.Sublist (Entries.keys fields) ∧ required.Nodup
      ∧ ∃ site live, schema.Shown place (.struct site live extraKeys)
        ∧ Entries.keys live = Entries.keys fields
        ∧ ∀ name field node, (name, field) ∈ fields → (name, node) ∈ live →
          (node.kind = .lazy → field.isOptional = false) →
          (name ∈ required ↔ field.isOptional = false)
            ∧ ∀ rebuilt, Schema.ofAst ast = .ok rebuilt →
              ∃ nodes, rebuilt.references.resolve place = .struct (some place) nodes extraKeys
                ∧ (name ∈ Node.requiredNames nodes ↔
                  name ∈ Node.requiredNames live ∧ field.buildsOptional = false) := by
  obtain ⟨node, shown, stub, hops, stack, describes⟩ := Schema.describes_of_at described structAt
  have notLazy : node.kind ≠ .lazy := fun isLazy ↦ by cases stub isLazy
  rw [describeAt_eq, describeNode_eq notLazy, Option.map_eq_some_iff] at describes
  obtain ⟨asts, each, eq⟩ := describes
  have each := describeList_eq_some_iff.1 each
  have kind : (node.describedBy schema.references asts).kind = node.kind :=
    (Node.children_describedBy notLazy each.length_eq).2
  rw [eq] at kind
  cases node with
  | struct site live extraKeys' =>
    cases eq
    have keys : Entries.keys ((Entries.keys live).zip asts) = Entries.keys live :=
      Entries.keys_zip (by simpa [Node.children, Entries.values] using each.length_eq.symm)
    have distinct : Entries.Distinct live := (shown.all formed).here
    have distinctFields : Entries.Distinct ((Entries.keys live).zip asts) := by
      rw [Entries.Distinct, keys]
      exact distinct
    have sublist : (Node.requiredNames live).Sublist (Entries.keys live) :=
      List.filter_sublist.map Prod.fst
    refine ⟨by rw [keys]; exact sublist, sublist.nodup distinct, site, live, shown, keys.symm, ?_⟩
    intro name field node declared member seen
    have pairs := Entries.Related.of_forall₂ (Entries.forall₂_zip_keys each)
    obtain ⟨field', found, describesField⟩ :=
      pairs.some_left (Entries.get?_eq_some_of_mem distinct member)
    rw [Entries.get?_eq_some_of_mem distinctFields declared] at found
    cases found
    have isOptional : node.isOptional = field.isOptional := by
      by_cases isLazy : node.kind = .lazy
      · rw [seen isLazy]
        cases node with
        | lazy => rfl
        | _ => cases isLazy
      · exact isOptional_of_describeNode isLazy describesField
    refine ⟨by rw [Node.mem_requiredNames distinct member, isOptional], fun rebuilt built ↦ ?_⟩
    exact Schema.mem_requiredNames_of_at built structAt distinctFields declared
  | _ => cases kind

/-- A ticket: a number, an owner by reference, and perhaps a note. -/
def Schema.ticket : Schema where
  root := .struct none
    [("number", .integer {}), ("owner", .lazy "owner" [0]), ("note", .optional none .symbol none)]
    .reject
  references := [([0], .symbol)]

/-- The description of a ticket. -/
def Ast.ticket : Ast :=
  .struct [("number", .integer {}), ("owner", .symbol), ("note", .optional .symbol none)]
    ["number", "owner"] .reject

/-- The owner of a ticket is listed, and required where it is built again. -/
theorem Schema.toAst?_required_ticket :
    ∃ rebuilt nodes, Schema.ticket.toAst? = some .ticket ∧ ofAst .ticket = .ok rebuilt
      ∧ rebuilt.references.resolve [] = .struct (some []) nodes .reject
      ∧ "owner" ∈ ["number", "owner"] ∧ "owner" ∈ Node.requiredNames nodes := by
  have formed : Schema.ticket.All Node.Formed := .of_published trivial (by decide) (by decide)
  have described : Schema.ticket.toAst? = some .ticket := rfl
  obtain ⟨rebuilt, built⟩ : ∃ rebuilt, ofAst .ticket = .ok rebuilt := ⟨_, rfl⟩
  obtain ⟨-, -, site, live, shown, -, each⟩ := toAst?_required formed described .root
  cases shown.eq_root (by decide)
  obtain ⟨listed, rebuilds⟩ := each "owner" .symbol (.lazy "owner" [0]) (by simp) (by simp)
    fun _ ↦ rfl
  obtain ⟨nodes, resolved, required⟩ := rebuilds rebuilt built
  exact ⟨rebuilt, nodes, described, built, resolved, listed.2 rfl,
    required.2 ⟨by decide, rfl⟩⟩

/-- A struct whose one field is an optional symbol, converted. -/
def Schema.converted : Schema where
  root := .struct none
    [("name", .transform none (.optional none .symbol none) "Name" ⟨id, id⟩)] .reject
  references := []

/-- The struct insists on its field, the description lists it, and the struct that is built from the
description does without it: a transform is built as the optional node that it converts. -/
theorem Schema.required_converted_lost :
    ∃ rebuilt nodes, Schema.converted.All Node.Formed
      ∧ Schema.converted.toAst? =
        some (.struct [("name", .transform (.optional .symbol none) "Name")] ["name"] .reject)
      ∧ ofAst (.struct [("name", .transform (.optional .symbol none) "Name")] ["name"] .reject) =
        .ok rebuilt
      ∧ rebuilt.root = .struct (some []) nodes .reject ∧ "name" ∉ Node.requiredNames nodes
      ∧ Schema.converted.decode (.object []) =
        .error (.within (.field "name") .requiredValue)
      ∧ rebuilt.decode (.object []) = .ok (.object []) := by
  have formed : Schema.converted.All Node.Formed := .of_published trivial (by decide) (by decide)
  exact ⟨_, _, formed, rfl, rfl, rfl, by decide, rfl, rfl⟩

end Schemata
