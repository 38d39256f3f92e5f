import Schemata.Proofs.Schema.Building
import Schemata.Proofs.Schema.Describing
import Schemata.Schema.Rebuild

/-!
# Building from descriptions

What is built from the description of a node. `Rebuilds` relates a node to what is built from it:
the same node around rebuilt children, where a reference has become either what it stands for, built
in its place, or a reference to the enclosing node that it stands for. The first argument of the
relation is the stack that describing and building share.

Building succeeds on every description of a schema without transforms and defaults, and what it
publishes at each place is what it built there (`Schema.exists_ofAst`).
-/

namespace Schemata

/-- The nodes around one that is described, innermost first, each with the place it is rebuilt at.
-/
abbrev Around := List (Node × Place)

/-- The stack of a description. -/
def Around.stack (around : Around) : List (Option Place) :=
  around.map fun entry ↦ entry.1.place?

/-- The stack of what is built from a description. -/
def Around.enclosing (around : Around) : List (Kind × Place) :=
  around.map fun entry ↦ (entry.1.kind, entry.2)

/-- What is built at a place from the description of a node. Whatever is built in place of a node
with its own description is among those published. -/
inductive Rebuilds (references published : References) : Around → Place → Node → Node → Prop where
  /-- A node other than a reference keeps its kind, and its children are rebuilt below it. -/
  | node {around : Around} {place : Place} {node : Node} {nodes : List Node}
    (notLazy : node.kind ≠ .lazy) (length : node.children.length = nodes.length)
    (known : (place, node.withChildren (some place) nodes) ∈ published)
    (below : ∀ (i : Nat) (h : i < node.children.length) (h' : i < nodes.length),
      Rebuilds references published ((node, place) :: around) (i :: place) node.children[i]
        nodes[i]) :
    Rebuilds references published around place node (node.withChildren (some place) nodes)
  /-- What a reference stands for is built in its place. -/
  | inlined {around : Around} {place reference : Place} {name : String} {node' : Node}
    (target : Rebuilds references published around place (references.resolve reference) node') :
    Rebuilds references published around place (.lazy name reference) node'
  /-- A reference to an enclosing node leads to the place that this is rebuilt at. -/
  | back {around : Around} {place reference place' : Place} {name : String} {k : Nat}
    (encloses : around[k]? = some (references.resolve reference, place')) :
    Rebuilds references published around place (.lazy name reference) (.lazy name place')

section Rebuilds

variable {references published published' : References} {around : Around} {place : Place}
  {node node' : Node}

theorem Rebuilds.mono (rebuilds : Rebuilds references published around place node node')
    (sub : ∀ entry ∈ published, entry ∈ published') :
    Rebuilds references published' around place node node' := by
  induction rebuilds with
  | node notLazy length known _ ih => exact .node notLazy length (sub _ known) ih
  | inlined _ ih => exact .inlined ih
  | back encloses => exact .back encloses

/-- A node other than a reference is rebuilt with other children. -/
theorem Rebuilds.exists_withChildren
    (rebuilds : Rebuilds references published around place node node')
    (notLazy : node.kind ≠ .lazy) :
    ∃ nodes, node' = node.withChildren (some place) nodes
      ∧ List.Forall₂ (fun child child' ↦ ∃ around place,
          Rebuilds references published around place child child') node.children nodes := by
  cases rebuilds with
  | node _ length known below =>
    exact ⟨_, rfl, List.forall₂_iff_get.2 ⟨length, fun i h h' ↦ ⟨_, _, below i h h'⟩⟩⟩
  | inlined | back => exact absurd rfl notLazy

/-- What is built from a node can take its place as a field and as a variant. -/
structure Node.FitsAs (node node' : Node) : Prop where
  /-- If the first may be absent, so may the second. -/
  optional : node.isOptional = true → node'.isOptional = true
  /-- If the first fits a tag, so does the second. -/
  variant : ∀ discriminator tag, variantFault? discriminator tag node = none →
    variantFault? discriminator tag node' = none

theorem Rebuilds.fitsAs (rebuilds : Rebuilds references published around place node node') :
    node.FitsAs node' where
  optional isOptional := by
    cases node with
    | optional =>
      obtain ⟨nodes, rfl, children⟩ := rebuilds.exists_withChildren (by simp [Node.kind])
      obtain ⟨inner', -, rfl⟩ := forall₂_singleton_left children
      rfl
    | _ => cases isOptional
  variant discriminator tag fits := by
    obtain ⟨_, fields, extraKeys, type, only, rfl, found, single, key⟩ :=
      Node.variantFault?_eq_none fits
    obtain ⟨nodes, rfl, children⟩ := rebuilds.exists_withChildren (by simp [Node.kind])
    have related := Entries.Related.of_forall₂ (Entries.forall₂_zip_keys children)
    obtain ⟨literal, found', _, _, rebuilt⟩ := related.some_left found
    obtain ⟨_, rfl, -⟩ := rebuilt.exists_withChildren (by simp [Node.kind])
    simp [Node.withChildren, Node.variantFault?, found', single, key]

end Rebuilds

/-! ### Building one node -/

theorem StringType.ofConstraints_constraints (type : StringType) :
    ofConstraints type.constraints = .ok type := by
  obtain ⟨c, pattern, compiled⟩ := type
  show ofConstraints c = _
  unfold ofConstraints
  split
  · next noFormat =>
    have none : none = pattern.map some := by rw [← compiled, noFormat, Option.map_none]
    cases pattern with
    | none => rfl
    | some => cases none
  · next format hasFormat =>
    have parsed : some (Pattern.parse? format) = pattern.map some := by
      rw [← compiled, hasFormat, Option.map_some]
    cases pattern with
    | none => cases parsed
    | some pattern =>
      rw [Option.map_some, Option.some.injEq] at parsed
      split
      · next failed => simp [parsed] at failed
      · next other parsed' =>
        obtain rfl : pattern = other := by simpa [parsed] using parsed'
        rfl

theorem LiteralType.ofValues_values (type : LiteralType) : ofValues type.values = .ok type := by
  have noneBad : type.values.find? (fun v ↦ !v.isScalar) = none := by
    simpa using type.scalars
  unfold ofValues
  rw [dif_neg type.nonempty]
  split
  · next bad found => simp [noneBad] at found
  · rfl

theorem Node.checkVariants_congr {discriminator : String} {seen : List String}
    {variants variants' : List (String × Node)}
    (fit : List.Forall₂ (fun v v' ↦ v.1 = v'.1 ∧ v.2.FitsAs v'.2) variants variants')
    (ok : checkVariants discriminator seen variants = .ok ()) :
    checkVariants discriminator seen variants' = .ok () := by
  induction fit generalizing seen with
  | nil => exact ok
  | @cons v v' _ _ head _ ih =>
    obtain ⟨tag, variant⟩ := v
    obtain ⟨_, variant'⟩ := v'
    obtain ⟨rfl, fits⟩ := head
    rw [checkVariants] at ok ⊢
    cases fault : variantFault? discriminator tag variant with
    | some fault' => simp [fault] at ok
    | none =>
      simp only [fault] at ok
      simp only [fits.variant discriminator tag fault]
      split
      · next repeated =>
        rw [if_pos repeated] at ok
        cases ok
      · next new =>
        rw [if_neg new] at ok
        exact ih ok

/-- No field of a described struct is made optional that was not. -/
theorem asField_requiredNames {fields : List (String × Node)} {parts : List (String × Part)}
    (fit : List.Forall₂ (fun f p ↦ f.1 = p.1 ∧ f.2.FitsAs p.2.node) fields parts) :
    parts.map (fun p ↦ (p.1, asField (Node.requiredNames fields) p.1 p.2.node)) =
      parts.map fun p ↦ (p.1, p.2.node) := by
  refine List.map_congr_left fun part member ↦ ?_
  obtain ⟨field, declared, name, fits⟩ :
      ∃ field ∈ fields, field.1 = part.1 ∧ field.2.FitsAs part.2.node := by
    obtain ⟨i, h, rfl⟩ := List.mem_iff_getElem.1 member
    have h' : i < fields.length := fit.length_eq ▸ h
    exact ⟨fields[i], List.getElem_mem h', fit.get h' h⟩
  rw [asField, if_pos]
  rw [Bool.or_eq_true, List.contains_iff_mem]
  by_cases isOptional : field.2.isOptional = true
  · exact .inl (fits.optional isOptional)
  · have required : field ∈ fields.filter fun field ↦ !field.2.isOptional :=
      List.mem_filter.2 ⟨declared, by simpa using isOptional⟩
    exact .inr (List.mem_map.2 ⟨field, required, name⟩)

variable {enclosing : List (Kind × Place)} {place : Place}

private theorem buildEntries_zip {entries : Entries Node} {asts : List Ast} {parts : List Part}
    (length : asts.length = entries.length)
    (built : buildList enclosing place 0 asts = .ok parts) :
    buildEntries enclosing place 0 ((Entries.keys entries).zip asts) =
      .ok ((Entries.keys entries).zip parts) := by
  rw [buildEntries_eq, Entries.values_zip length, Entries.keys_zip length, built]
  rfl

/-- From the description of a node its children are built, and then the node around them. -/
theorem buildNode_describedBy {references : References} {node : Node} (notLazy : node.kind ≠ .lazy)
    (formed : node.Formed) (noTransform : node.NoTransform) (noDefault : node.NoDefault)
    {asts : List Ast} {parts : List Part}
    (built : buildList ((node.kind, place) :: enclosing) place 0 asts = .ok parts)
    (fit : List.Forall₂ (fun child part ↦ child.FitsAs part.node) node.children parts) :
    buildNode enclosing place (node.describedBy references asts) =
      .ok (.of place (node.withChildren (some place) (parts.map Part.node)) parts) := by
  have length : parts.length = asts.length := length_of_buildList built
  cases node with
  | lazy => exact absurd rfl notLazy
  | transform => exact noTransform.elim
  | string type =>
    cases fit
    simp only [Node.describedBy, buildNode, StringType.ofConstraints_constraints]
    rfl
  | literal type =>
    cases fit
    simp only [Node.describedBy, buildNode, LiteralType.ofValues_values]
    rfl
  | number | integer | boolean | null | symbol =>
    cases fit
    rfl
  | array _ item c =>
    obtain ⟨part, -, rfl⟩ := forall₂_singleton_left fit
    obtain ⟨ast, rfl⟩ := List.length_eq_one_iff.1 length.symm
    obtain ⟨_, _, here, -, eq⟩ := buildList_cons.1 built
    cases eq
    exact bind_eq_ok_iff.2 ⟨part, here, rfl⟩
  | optional _ inner default =>
    cases default with
    | some => exact noDefault.elim
    | none =>
      obtain ⟨part, -, rfl⟩ := forall₂_singleton_left fit
      obtain ⟨ast, rfl⟩ := List.length_eq_one_iff.1 length.symm
      obtain ⟨_, _, here, -, eq⟩ := buildList_cons.1 built
      cases eq
      exact bind_eq_ok_iff.2 ⟨part, here, rfl⟩
  | record _ key value =>
    obtain ⟨keyPart, valuePart, -, -, rfl⟩ := forall₂_pair_left fit
    obtain ⟨keyAst, valueAst, rfl⟩ := List.length_eq_two.1 length.symm
    obtain ⟨_, _, hereKey, later, eq⟩ := buildList_cons.1 built
    cases eq
    obtain ⟨_, _, hereValue, -, eq⟩ := buildList_cons.1 later
    cases eq
    exact bind_eq_ok_iff.2 ⟨keyPart, hereKey, bind_eq_ok_iff.2 ⟨valuePart, hereValue, rfl⟩⟩
  | tuple _ elements | union _ elements => exact bind_eq_ok_iff.2 ⟨parts, built, rfl⟩
  | struct _ fields extraKeys =>
    have declared : asts.length = fields.length := by
      rw [← length, ← fit.length_eq, Node.children, Entries.values, List.length_map]
    refine bind_eq_ok_iff.2 ⟨(Entries.keys fields).zip parts, buildEntries_zip declared built, ?_⟩
    rw [asField_requiredNames (Entries.forall₂_zip_keys fit), ← zip_map_node,
      map_snd_zip_keys fit.length_eq.symm]
    rfl
  | discriminatedUnion _ discriminator variants =>
    have declared : asts.length = variants.length := by
      rw [← length, ← fit.length_eq, Node.children, Entries.values, List.length_map]
    refine bind_eq_ok_iff.2 ⟨(Entries.keys variants).zip parts, buildEntries_zip declared built, ?_⟩
    have checked := Node.checkVariants_congr (Entries.forall₂_zip_keys
      (List.forall₂_map_right_iff.2 fit)) formed
    rw [← zip_map_node, map_snd_zip_keys fit.length_eq.symm]
    exact bind_eq_ok_iff.2 ⟨(), checked, rfl⟩

/-! ### Building all nodes -/

/-- What building yields for a node at a place: the node is rebuilt, nothing is left to check, and
what is published stands at or below the place, one node at each. -/
structure Part.Rebuilt (references : References) (around : Around) (place : Place) (node : Node)
    (part : Part) : Prop where
  /-- The node is rebuilt. -/
  rebuilds : Rebuilds references part.published around place node part.node
  /-- What is published stands at or below the place. -/
  below : ∀ entry ∈ part.published, place <:+ entry.1
  /-- No place stands for two nodes. -/
  unique : ∀ entry ∈ part.published, ∀ entry' ∈ part.published, entry.1 = entry'.1 → entry = entry'
  /-- No default is left to check. -/
  checked : part.deferred = []

section Building

variable {references : References} {around : Around}

/-- A part without children. -/
private theorem Part.Rebuilt.leaf {node node' : Node}
    (rebuilds : Rebuilds references [(place, node')] around place node node') :
    Part.Rebuilt references around place node (.of place node' []) where
  rebuilds := rebuilds
  below entry member := by
    obtain rfl := List.mem_singleton.1 member
    exact List.suffix_refl _
  unique entry member entry' member' _ := by
    rw [List.mem_singleton.1 member, List.mem_singleton.1 member']
  checked := rfl

/-- A part around the parts of the children. -/
private theorem Part.Rebuilt.branch {node : Node} (notLazy : node.kind ≠ .lazy) {parts : List Part}
    (length : node.children.length = parts.length)
    (each : ∀ (i : Nat) (h : i < node.children.length) (h' : i < parts.length),
      Part.Rebuilt references ((node, place) :: around) (i :: place) node.children[i] parts[i]) :
    Part.Rebuilt references around place node
      (.of place (node.withChildren (some place) (parts.map Part.node)) parts) := by
  have published : ∀ entry ∈ parts.flatMap Part.published, ∃ i, ∃ h : i < parts.length,
      entry ∈ parts[i].published ∧ (i :: place) <:+ entry.1 := by
    intro entry member
    obtain ⟨part, isPart, entry⟩ := List.mem_flatMap.1 member
    obtain ⟨i, h, rfl⟩ := List.mem_iff_getElem.1 isPart
    exact ⟨i, h, entry, (each i (length ▸ h) h).below _ entry⟩
  have inner : ∀ entry ∈ parts.flatMap Part.published, entry.1 ≠ place := by
    rintro entry member rfl
    obtain ⟨i, h, -, suffix⟩ := published entry member
    exact absurd suffix.length_le (by simp)
  refine ⟨?_, ?_, ?_, ?_⟩
  · refine .node notLazy (by rw [length, List.length_map]) List.mem_cons_self fun i h h' ↦ ?_
    rw [List.length_map] at h'
    rw [List.getElem_map]
    refine (each i h h').rebuilds.mono fun entry member ↦ ?_
    exact List.mem_cons_of_mem _ (List.mem_flatMap.2 ⟨parts[i], List.getElem_mem h', member⟩)
  · intro entry member
    rcases List.mem_cons.1 member with rfl | member
    · exact List.suffix_refl _
    · obtain ⟨i, h, -, suffix⟩ := published entry member
      exact (List.suffix_cons i place).trans suffix
  · intro entry member entry' member' same
    rcases List.mem_cons.1 member with rfl | member
    · rcases List.mem_cons.1 member' with rfl | member'
      · rfl
      · exact absurd same.symm (inner entry' member')
    · rcases List.mem_cons.1 member' with rfl | member'
      · exact absurd same (inner entry member)
      · obtain ⟨i, h, child, suffix⟩ := published entry member
        obtain ⟨j, h', child', suffix'⟩ := published entry' member'
        obtain rfl := Place.index_eq_of_suffix suffix (same ▸ suffix')
        exact (each i (length ▸ h) h).unique entry child entry' child' same
  · refine List.flatMap_eq_nil_iff.2 fun part isPart ↦ ?_
    obtain ⟨i, h, rfl⟩ := List.mem_iff_getElem.1 isPart
    exact (each i (length ▸ h) h).checked

/-- Children that build at all places are built from the `i`th on. -/
private theorem exists_buildList {p : Place → Node → Part → Prop} {nodes : List Node}
    {asts : List Ast}
    (each : List.Forall₂ (fun node ast ↦ ∀ place, ∃ part,
      buildNode enclosing place ast = .ok part ∧ p place node part) nodes asts) (i : Nat) :
    ∃ parts, buildList enclosing place i asts = .ok parts ∧ nodes.length = parts.length
      ∧ ∀ (j : Nat) (h : j < nodes.length) (h' : j < parts.length),
        p ((i + j) :: place) nodes[j] parts[j] := by
  induction each generalizing i with
  | nil => exact ⟨[], rfl, rfl, fun j h ↦ absurd h (Nat.not_lt_zero j)⟩
  | cons head _ ih =>
    obtain ⟨part, here, holds⟩ := head (i :: place)
    obtain ⟨later, tail, length, rest⟩ := ih (i + 1)
    refine ⟨part :: later, buildList_cons.2 ⟨part, later, here, tail, rfl⟩, by simp [length],
      fun j h h' ↦ ?_⟩
    cases j with
    | zero => exact holds
    | succ j =>
      rw [← Nat.add_assoc, Nat.add_right_comm]
      exact rest j (Nat.lt_of_succ_lt_succ h) (Nat.lt_of_succ_lt_succ h')

/-- A node on the stack that is found by its place. -/
private theorem exists_of_distanceTo? {place? : Option Place} {distance : Nat}
    (found : distanceTo? around.stack place? = some distance) :
    ∃ k node place', distance = k + 1 ∧ around[k]? = some (node, place')
      ∧ ∃ place, node.place? = some place ∧ place? = some place := by
  cases place? with
  | none => cases found
  | some place =>
    obtain ⟨k, index, rfl⟩ := Option.map_eq_some_iff.1 found
    obtain ⟨h, same, -⟩ := List.findIdx?_eq_some_iff_getElem.1 index
    rw [Around.stack, List.length_map] at h
    refine ⟨k, around[k].1, around[k].2, rfl, List.getElem?_eq_getElem h, place, ?_, rfl⟩
    simpa [Around.stack] using same

/-- What the nodes of a schema must be for their descriptions to build as they are. -/
private abbrev Buildable (sites : Place → Node) (node : Node) : Prop :=
  node.Formed ∧ node.NoTransform ∧ node.NoDefault ∧ node.StandsIn sites

/-- The stack holds nodes that stand at their places. -/
private abbrev Around.Sited (sites : Place → Node) (around : Around) : Prop :=
  ∀ entry ∈ around, entry.1.StandsIn sites

variable {sites : Place → Node} (resolved : ∀ r, Buildable sites (references.resolve r))
include resolved

/-- The stub of a node on the stack builds. -/
private theorem exists_buildNode_lazy (sited : around.Sited sites) {r : Place} {distance : Nat}
    (found : distanceTo? around.stack (references.resolve r).place? = some distance)
    (name : String) (place : Place) :
    ∃ part, buildNode around.enclosing place
        (.lazy name (references.resolve r).kind (some distance)) = .ok part
      ∧ Part.Rebuilt references around place (.lazy name r) part := by
  obtain ⟨k, node, place', rfl, onStack, p, stands, stands'⟩ := exists_of_distanceTo? found
  have same : node = references.resolve r :=
    (sited _ (List.mem_of_getElem? onStack) p stands).symm.trans ((resolved r).2.2.2 p stands')
  subst same
  have designated : designated? around.enclosing (references.resolve r).kind (some (k + 1)) =
      some place' := by
    simp [designated?, Around.enclosing, onStack]
  refine ⟨.of place (.lazy name place') [], ?_, .leaf (.back onStack)⟩
  rw [buildNode, designated]
  rfl

/-- The description of a node builds where the descriptions of all references below it do. -/
private theorem exists_buildNode {inline : Describer}
    (inlined : ∀ around : Around, around.Sited sites → ∀ r ast,
      inline around.stack (references.resolve r) = some ast → ∀ place, ∃ part,
        buildNode around.enclosing place ast = .ok part
          ∧ Part.Rebuilt references around place (references.resolve r) part)
    {node : Node} (buildable : node.All (Buildable sites)) (sited : around.Sited sites) {ast : Ast}
    (described : describeNode references inline around.stack node = some ast) (place : Place) :
    ∃ part, buildNode around.enclosing place ast = .ok part
      ∧ Part.Rebuilt references around place node part := by
  induction buildable generalizing around ast place with
  | @intro node here _ ih =>
    by_cases notLazy : node.kind = .lazy
    · cases node with
      | lazy name r =>
        rw [describeNode] at described
        cases found : distanceTo? around.stack (references.resolve r).place? with
        | none =>
          rw [found] at described
          obtain ⟨part, built, rebuilt⟩ := inlined around sited r ast described place
          exact ⟨part, built, ⟨.inlined rebuilt.rebuilds, rebuilt.below, rebuilt.unique,
            rebuilt.checked⟩⟩
        | some distance =>
          rw [found] at described
          cases described
          exact exists_buildNode_lazy resolved sited found name place
      | _ => cases notLazy
    · rw [describeNode_eq notLazy] at described
      obtain ⟨asts, list, rfl⟩ := Option.map_eq_some_iff.1 described
      have described := describeList_eq_some_iff.1 list
      have inside : Around.Sited sites ((node, place) :: around) :=
        List.forall_mem_cons.2 ⟨here.2.2.2, sited⟩
      have each : List.Forall₂ (fun child ast ↦ ∀ place', ∃ part,
          buildNode (Around.enclosing ((node, place) :: around)) place' ast = .ok part
            ∧ Part.Rebuilt references ((node, place) :: around) place' child part)
          node.children asts :=
        List.forall₂_iff_get.2 ⟨described.length_eq, fun i h h' ↦
          ih _ (List.get_mem _ _) inside (described.get h h')⟩
      obtain ⟨parts, built, length, rebuilt⟩ := exists_buildList each 0
      simp only [Nat.zero_add] at rebuilt
      have fit : List.Forall₂ (fun child part ↦ child.FitsAs part.node) node.children parts :=
        List.forall₂_iff_get.2 ⟨length, fun i h h' ↦ (rebuilt i h h').rebuilds.fitsAs⟩
      exact ⟨_, buildNode_describedBy notLazy here.1 here.2.1 here.2.2.1 built fit,
        .branch notLazy length rebuilt⟩

/-- The description of a node of a schema builds. -/
private theorem exists_buildNode_of_describeAt
    (throughout : ∀ r, (references.resolve r).All (Buildable sites)) (hops : Nat)
    {node : Node} (buildable : node.All (Buildable sites)) (sited : around.Sited sites) {ast : Ast}
    (described : describeAt references hops around.stack node = some ast) (place : Place) :
    ∃ part, buildNode around.enclosing place ast = .ok part
      ∧ Part.Rebuilt references around place node part := by
  induction hops generalizing around node ast place with
  | zero =>
    rw [describeAt_eq] at described
    exact exists_buildNode resolved (fun _ _ _ _ none ↦ by cases none) buildable sited described
      place
  | succ hops ih =>
    rw [describeAt_eq] at described
    exact exists_buildNode resolved
      (fun _ sited r _ described place ↦ ih (throughout r) sited described place) buildable sited
      described place

end Building

/-- A schema without transforms and defaults is rebuilt from its description. -/
theorem Schema.exists_ofAst {schema : Schema} (formed : schema.All Node.Formed)
    (noTransform : schema.All Node.NoTransform) (noDefault : schema.All Node.NoDefault)
    (sited : schema.Sited) {ast : Ast} (described : schema.toAst? = some ast) :
    ∃ rebuilt, Schema.ofAst ast = .ok rebuilt
      ∧ Rebuilds schema.references rebuilt.references [] [] schema.root rebuilt.root
      ∧ ∀ place node, (place, node) ∈ rebuilt.references →
        rebuilt.references.resolve place = node := by
  obtain ⟨sites, unique⟩ := sited.unique
  have resolved (r : Place) : (schema.references.resolve r).All (Buildable sites) :=
    (formed.resolved r).and ((noTransform.resolved r).and
      ((noDefault.resolved r).and (unique.resolved r)))
  have root : schema.root.All (Buildable sites) :=
    formed.root.and (noTransform.root.and (noDefault.root.and unique.root))
  have alone : Around.Sited sites [] := fun _ member ↦ absurd member List.not_mem_nil
  obtain ⟨part, built, rebuilt⟩ := exists_buildNode_of_describeAt (fun r ↦ (resolved r).here)
    resolved _ root alone described []
  refine ⟨⟨part.node, part.published⟩, ?_, rebuilt.rebuilds, fun place node member ↦ ?_⟩
  · refine bind_eq_ok_iff.2 ⟨part, built, ?_⟩
    rw [rebuilt.checked]
    rfl
  · show References.resolve part.published place = node
    rw [References.resolve]
    cases found : part.published.lookup place with
    | none =>
      have absent := List.lookup_eq_none_iff.1 found (place, node) member
      simp at absent
    | some other =>
      obtain ⟨before, after, split, -⟩ := List.lookup_eq_some_iff.1 found
      have published : (place, other) ∈ part.published := by simp [split]
      exact congrArg Prod.snd (rebuilt.unique _ published _ member rfl)

end Schemata
