import Schemata.Proofs.Ast
import Schemata.Proofs.Basic
import Schemata.Proofs.Schema.Tracing
import Schemata.Schema.Rebuild

/-!
# How a description is built

Building a description is building its children, one after the other, and then assembling a node
from what they yield (`buildNode_eq`). What is published stands at and below the place that was
built at, one node at each place, so in a finished schema every part of a description has the node
that was assembled from it (`Schema.assembled_of_ofAst`).
-/

namespace Schemata

namespace Ast

/-- The node of a description at a place around the nodes of its children. A default whose type
holds no stub is decoded on a table of references. -/
def assemble (references : References) (enclosing : List (Kind × Place)) (place : Place)
    (nodes : List Node) : Ast → Except SchemaError Node
  | .string c => return .string (← StringType.ofConstraints c)
  | .number c => return .number c
  | .integer c => return .integer c
  | .boolean => return .boolean
  | .null => return .null
  | .symbol => return .symbol
  | .literal values => return .literal (← LiteralType.ofValues values)
  | .array _ c => return .array (some place) (nodes.getD 0 .null) c
  | .tuple _ => return .tuple (some place) nodes
  | .struct fields required extraKeys =>
    let named := (Entries.keys fields).zip nodes
    return .struct (some place) (named.map fun f ↦ (f.1, asField required f.1 f.2)) extraKeys
  | .record _ _ => return .record (some place) (nodes.getD 0 .null) (nodes.getD 1 .null)
  | .union _ => return .union (some place) nodes
  | .discriminatedUnion discriminator variants => do
    let named := (Entries.keys variants).zip nodes
    Node.checkVariants discriminator [] named
    return .discriminatedUnion (some place) discriminator named
  | .optional _ none => return .optional (some place) (nodes.getD 0 .null) none
  | .optional inner (some default) =>
    if inner.hasStub then return .optional (some place) (nodes.getD 0 .null) (some default)
    else optionalWithDefault references (some place) (nodes.getD 0 .null) default
  | .transform _ _ => return nodes.getD 0 .null
  | .lazy name refKind refDepth =>
    match designated? enclosing refKind refDepth with
    | some reference => return .lazy name reference
    | none => throw (.unsupported (.danglingReference name refKind))

/-- The default of a description that is checked when the whole tree exists, with its type. -/
def deferred (nodes : List Node) : Ast → List (Node × Value)
  | .optional inner (some default) => if inner.hasStub then [(nodes.getD 0 .null, default)] else []
  | _ => []

end Ast

/-! ### Children -/

section Lists

variable {enclosing : List (Kind × Place)} {place : Place}

theorem buildList_cons {ast : Ast} {rest : List Ast} {parts : List Part} {i : Nat} :
    buildList enclosing place i (ast :: rest) = .ok parts ↔
      ∃ part later, buildNode enclosing (i :: place) ast = .ok part
        ∧ buildList enclosing place (i + 1) rest = .ok later ∧ parts = part :: later := by
  rw [buildList, bind_eq_ok_iff]
  constructor
  · rintro ⟨part, here, built⟩
    obtain ⟨later, tail, built⟩ := bind_eq_ok_iff.1 built
    cases built
    exact ⟨part, later, here, tail, rfl⟩
  · rintro ⟨part, later, here, tail, rfl⟩
    exact ⟨part, here, bind_eq_ok_iff.2 ⟨later, tail, rfl⟩⟩

theorem length_of_buildList {asts : List Ast} {parts : List Part} {i : Nat}
    (built : buildList enclosing place i asts = .ok parts) : parts.length = asts.length := by
  induction asts generalizing parts i with
  | nil =>
    cases built
    rfl
  | cons ast rest ih =>
    obtain ⟨part, later, -, tail, rfl⟩ := buildList_cons.1 built
    rw [List.length_cons, List.length_cons, ih tail]

/-- Named children are built as the children without their names are. -/
theorem buildEntries_eq (entries : List (String × Ast)) (i : Nat) :
    buildEntries enclosing place i entries =
      (buildList enclosing place i (Entries.values entries)).map (Entries.keys entries).zip := by
  induction entries generalizing i with
  | nil => rfl
  | cons entry rest ih =>
    obtain ⟨name, ast⟩ := entry
    show (buildNode enclosing (i :: place) ast >>= fun part ↦
        buildEntries enclosing place (i + 1) rest >>= fun later ↦ pure ((name, part) :: later)) =
      (buildNode enclosing (i :: place) ast >>= fun part ↦
        buildList enclosing place (i + 1) (Entries.values rest) >>= fun later ↦
          pure (part :: later)).map (name :: Entries.keys rest).zip
    rw [ih]
    cases buildNode enclosing (i :: place) ast with
    | error e => rfl
    | ok part =>
      cases buildList enclosing place (i + 1) (Entries.values rest) <;> rfl

/-- Each child is built at its own place. -/
theorem getElem?_of_buildList {asts : List Ast} {parts : List Part} {i : Nat}
    (built : buildList enclosing place i asts = .ok parts) {j : Nat} {ast : Ast}
    (found : asts[j]? = some ast) :
    ∃ part, parts[j]? = some part ∧ buildNode enclosing ((i + j) :: place) ast = .ok part := by
  induction asts generalizing parts i j with
  | nil => simp at found
  | cons first rest ih =>
    obtain ⟨part, later, here, tail, rfl⟩ := buildList_cons.1 built
    cases j with
    | zero =>
      obtain rfl : first = ast := by simpa using found
      exact ⟨part, rfl, here⟩
    | succ j =>
      rw [List.getElem?_cons_succ, Nat.add_comm j, ← Nat.add_assoc]
      exact ih tail (by simpa using found)

/-- Every part is that of a child. -/
theorem exists_of_mem_buildList {asts : List Ast} {parts : List Part} {i : Nat}
    (built : buildList enclosing place i asts = .ok parts) {part : Part} (among : part ∈ parts) :
    ∃ ast ∈ asts, ∃ place', buildNode enclosing place' ast = .ok part := by
  obtain ⟨j, lt, rfl⟩ := List.mem_iff_getElem.1 among
  have inside : j < asts.length := length_of_buildList built ▸ lt
  obtain ⟨part, found, builtChild⟩ :=
    getElem?_of_buildList built (List.getElem?_eq_getElem inside)
  obtain rfl : parts[j] = part := by simpa [lt] using found
  exact ⟨asts[j], List.getElem_mem inside, _, builtChild⟩

/-- The nodes of named parts. -/
theorem zip_map_node (names : List String) (parts : List Part) :
    names.zip (parts.map Part.node) = (names.zip parts).map fun p ↦ (p.1, p.2.node) := by
  rw [List.zip_map_right]
  rfl

/-- The parts of named children without their names. -/
theorem map_snd_zip_keys {α : Type} {entries : Entries α} {parts : List Part}
    (length : parts.length = (Entries.values entries).length) :
    ((Entries.keys entries).zip parts).map Prod.snd = parts := by
  refine List.map_snd_zip (Nat.le_of_eq ?_)
  rw [length, Entries.keys, Entries.values, List.length_map, List.length_map]

/-- The first child that does not build fails all. -/
theorem buildList_error {asts : List Ast} {i j : Nat} {ast : Ast} (found : asts[j]? = some ast)
    (earlier : ∀ k < j, ∀ sibling, asts[k]? = some sibling →
      ∃ part, buildNode enclosing ((i + k) :: place) sibling = .ok part)
    {error : SchemaError} (failed : buildNode enclosing ((i + j) :: place) ast = .error error) :
    buildList enclosing place i asts = .error error := by
  induction asts generalizing i j with
  | nil => simp at found
  | cons first rest ih =>
    cases j with
    | zero =>
      obtain rfl : first = ast := by simpa using found
      rw [buildList, show buildNode enclosing (i :: place) first = .error error from failed]
      rfl
    | succ j =>
      obtain ⟨part, here⟩ := earlier 0 (Nat.succ_pos j) first rfl
      have later : buildList enclosing place (i + 1) rest = .error error := by
        refine ih (j := j) (by simpa using found) (fun k lt sibling there ↦ ?_) ?_
        · rw [Nat.add_assoc, Nat.add_comm 1]
          exact earlier (k + 1) (Nat.succ_lt_succ lt) sibling (by simpa using there)
        · rwa [Nat.add_assoc, Nat.add_comm 1]
      rw [buildList, show buildNode enclosing (i :: place) first = .ok part from here]
      show (buildList enclosing place (i + 1) rest >>= _) = _
      rw [later]
      rfl

end Lists

/-! ### One description -/

/-- A description is built from its children, one after the other, and then assembled. -/
theorem buildNode_eq (enclosing : List (Kind × Place)) (place : Place) (ast : Ast) :
    buildNode enclosing place ast = (do
      let parts ← buildList ((ast.kind, place) :: enclosing) place 0 ast.children
      let nodes := parts.map Part.node
      let node ← ast.assemble (parts.flatMap Part.published) enclosing place nodes
      return ⟨node, (place, node) :: parts.flatMap Part.published,
        parts.flatMap Part.deferred ++ ast.deferred nodes⟩) := by
  -- What is left after the children are built is the same computation, up to the end of a list.
  have assembled (parts : List Part) {node : Node}
      (nothing : ast.deferred (parts.map Part.node) = []) :
      Part.of place node parts = ⟨node, (place, node) :: parts.flatMap Part.published,
        parts.flatMap Part.deferred ++ ast.deferred (parts.map Part.node)⟩ := by
    rw [nothing, List.append_nil]
    rfl
  cases ast with
  | string c =>
    simp only [buildNode, Ast.children, Ast.assemble, Ast.kind, buildList]
    cases StringType.ofConstraints c <;> rfl
  | literal values =>
    simp only [buildNode, Ast.children, Ast.assemble, Ast.kind, buildList]
    cases LiteralType.ofValues values <;> rfl
  | number | integer | boolean | null | symbol => rfl
  | array item c =>
    simp only [buildNode, Ast.children, Ast.assemble, Ast.kind, buildList]
    cases buildNode ((.array, place) :: enclosing) (0 :: place) item with
    | error e => rfl
    | ok part => exact congrArg Except.ok (assembled [part] rfl)
  | tuple elements =>
    simp only [buildNode, Ast.children, Ast.assemble, Ast.kind]
    cases buildList ((.tuple, place) :: enclosing) place 0 elements with
    | error e => rfl
    | ok parts => exact congrArg Except.ok (assembled _ rfl)
  | struct fields required extraKeys =>
    simp only [buildNode, Ast.children, Ast.assemble, Ast.kind, buildEntries_eq]
    cases built : buildList ((.struct, place) :: enclosing) place 0 (Entries.values fields) with
    | error e => rfl
    | ok parts =>
      have named := zip_map_node (Entries.keys fields) parts
      have unnamed := map_snd_zip_keys (length_of_buildList built)
      show Except.ok (Part.of place _ (((Entries.keys fields).zip parts).map Prod.snd)) = .ok _
      rw [unnamed, assembled parts rfl, named, List.map_map]
      rfl
  | record key value =>
    simp only [buildNode, Ast.children, Ast.assemble, Ast.kind, buildList]
    cases buildNode ((.record, place) :: enclosing) (0 :: place) key with
    | error e => rfl
    | ok keyPart =>
      cases buildNode ((.record, place) :: enclosing) (1 :: place) value with
      | error e => rfl
      | ok valuePart => exact congrArg Except.ok (assembled [keyPart, valuePart] rfl)
  | union members =>
    simp only [buildNode, Ast.children, Ast.assemble, Ast.kind]
    cases buildList ((.union, place) :: enclosing) place 0 members with
    | error e => rfl
    | ok parts => exact congrArg Except.ok (assembled _ rfl)
  | discriminatedUnion discriminator variants =>
    simp only [buildNode, Ast.children, Ast.assemble, Ast.kind, buildEntries_eq]
    cases built : buildList ((.discriminatedUnion, place) :: enclosing) place 0
        (Entries.values variants) with
    | error e => rfl
    | ok parts =>
      have named := zip_map_node (Entries.keys variants) parts
      have unnamed := map_snd_zip_keys (length_of_buildList built)
      simp only [bind, Except.bind, Except.map, ← named, unnamed]
      cases Node.checkVariants discriminator [] ((Entries.keys variants).zip (parts.map Part.node))
        with
      | error e => rfl
      | ok => exact congrArg Except.ok (assembled _ rfl)
  | optional inner default =>
    cases default with
    | none =>
      simp only [buildNode, Ast.children, Ast.assemble, Ast.kind, buildList]
      cases buildNode ((.optional, place) :: enclosing) (0 :: place) inner with
      | error e => rfl
      | ok part => exact congrArg Except.ok (assembled [part] rfl)
    | some value =>
      simp only [buildNode, Ast.children, Ast.assemble, Ast.kind, buildList]
      cases buildNode ((.optional, place) :: enclosing) (0 :: place) inner with
      | error e => rfl
      | ok part =>
        have published : [part].flatMap Part.published = part.published := by simp
        simp only [bind, Except.bind, pure, Except.pure, published, List.map_cons, List.map_nil,
          List.getD_cons_zero]
        split
        · next stub => simp [Part.deferring, Part.of, Ast.deferred, stub]
        · next noStub =>
          cases optionalWithDefault part.published (some place) part.node value with
          | error e => rfl
          | ok node => simp [Part.of, Ast.deferred, noStub]
  | transform inner target =>
    simp only [buildNode, Ast.children, Ast.assemble, Ast.kind, buildList]
    cases buildNode ((.transform, place) :: enclosing) (0 :: place) inner with
    | error e => rfl
    | ok part => exact congrArg Except.ok (assembled [part] rfl)
  | lazy name refKind refDepth =>
    simp only [buildNode, Ast.children, Ast.assemble, Ast.kind, buildList]
    cases designated? enclosing refKind refDepth <;> rfl

/-- Building succeeds where the children build and the node can be assembled. -/
theorem buildNode_eq_ok_iff {enclosing : List (Kind × Place)} {place : Place} {ast : Ast}
    {part : Part} :
    buildNode enclosing place ast = .ok part ↔
      ∃ parts node, buildList ((ast.kind, place) :: enclosing) place 0 ast.children = .ok parts
        ∧ ast.assemble (parts.flatMap Part.published) enclosing place (parts.map Part.node) =
          .ok node
        ∧ part = ⟨node, (place, node) :: parts.flatMap Part.published,
          parts.flatMap Part.deferred ++ ast.deferred (parts.map Part.node)⟩ := by
  rw [buildNode_eq, bind_eq_ok_iff]
  constructor
  · rintro ⟨parts, children, rest⟩
    obtain ⟨node, assembled, last⟩ := bind_eq_ok_iff.1 rest
    cases last
    exact ⟨parts, node, children, assembled, rfl⟩
  · rintro ⟨parts, node, children, assembled, rfl⟩
    exact ⟨parts, children, bind_eq_ok_iff.2 ⟨node, assembled, rfl⟩⟩

theorem optionalWithDefault_eq_ok {references : References} {place : Option Place}
    {inner node : Node} {default : Value}
    (ok : optionalWithDefault references place inner default = .ok node) :
    ∃ decoded, decodeAt references defaultMaxDepth defaultMaxDepth inner default = .ok decoded
      ∧ node = .optional place inner (some decoded) := by
  rw [optionalWithDefault] at ok
  split at ok
  · next decoded decodes =>
    cases ok
    exact ⟨decoded, decodes, rfl⟩
  · cases ok

/-- An optional description is assembled to an optional node. -/
theorem optional_of_assemble {references : References} {enclosing : List (Kind × Place)}
    {place : Place} {nodes : List Node} {inner : Ast} {default : Option Value} {node : Node}
    (assembled : (Ast.optional inner default).assemble references enclosing place nodes =
      .ok node) : ∃ decoded, node = .optional (some place) (nodes.getD 0 .null) decoded := by
  cases default with
  | none => exact ⟨none, (Except.ok.inj assembled).symm⟩
  | some default =>
    rw [Ast.assemble] at assembled
    split at assembled
    · exact ⟨some default, (Except.ok.inj assembled).symm⟩
    · obtain ⟨decoded, -, eq⟩ := optionalWithDefault_eq_ok assembled
      exact ⟨some decoded, eq⟩

/-- What holds throughout some nodes holds throughout each of them. -/
theorem all_getD {p : Node → Prop} (null : p .null) {nodes : List Node}
    (below : ∀ node ∈ nodes, node.All p) (i : Nat) : (nodes.getD i .null).All p := by
  rw [List.getD_eq_getElem?_getD]
  cases found : nodes[i]? with
  | none => exact .intro null (by simp [Node.children])
  | some node => exact below node (List.mem_of_getElem? found)

/-- What holds of an assembled node, and of what stands for a missing child or marks a field, holds
throughout the assembled tree, if it does below. -/
theorem all_assemble {p : Node → Prop} (null : p .null)
    (marked : ∀ inner, p (.optional none inner none)) {references : References}
    {enclosing : List (Kind × Place)} {place : Place} {nodes : List Node}
    (below : ∀ node ∈ nodes, node.All p) {ast : Ast} (notLazy : ast.kind ≠ .lazy) {node : Node}
    (assembled : ast.assemble references enclosing place nodes = .ok node)
    (here : node.kind ≠ .lazy → p node) : node.All p := by
  have at_ := all_getD null below
  have named {names : List String} {entry : String × Node} (member : entry ∈ names.zip nodes) :
      entry.2.All p :=
    below entry.2 (List.of_mem_zip member).2
  cases ast with
  | string c =>
    obtain ⟨type, -, last⟩ := bind_eq_ok_iff.1 assembled
    cases last
    exact .intro (here (by simp [Node.kind])) (by simp [Node.children])
  | literal values =>
    obtain ⟨type, -, last⟩ := bind_eq_ok_iff.1 assembled
    cases last
    exact .intro (here (by simp [Node.kind])) (by simp [Node.children])
  | number | integer | boolean | null | symbol =>
    cases assembled
    exact .intro (here (by simp [Node.kind])) (by simp [Node.children])
  | array =>
    cases assembled
    exact .intro (here (by simp [Node.kind])) (by simpa [Node.children] using at_ 0)
  | tuple | union =>
    cases assembled
    exact .intro (here (by simp [Node.kind])) below
  | struct fields required extraKeys =>
    cases assembled
    refine .intro (here (by simp [Node.kind])) fun child member ↦ ?_
    simp only [Node.children, Entries.values, List.map_map, List.mem_map, Function.comp] at member
    obtain ⟨entry, among, rfl⟩ := member
    rw [asField]
    split
    · exact named among
    · exact .intro (marked _) (by simpa [Node.children] using named among)
  | record =>
    cases assembled
    refine .intro (here (by simp [Node.kind])) ?_
    simpa only [Node.children, List.forall_mem_cons, List.not_mem_nil, false_imp_iff,
      implies_true, and_true] using And.intro (at_ 0) (at_ 1)
  | discriminatedUnion discriminator variants =>
    obtain ⟨_, -, last⟩ := bind_eq_ok_iff.1 assembled
    cases last
    refine .intro (here (by simp [Node.kind])) fun child member ↦ ?_
    obtain ⟨entry, among, rfl⟩ := List.mem_map.1 member
    exact named among
  | optional inner default =>
    obtain ⟨decoded, rfl⟩ := optional_of_assemble assembled
    exact .intro (here (by simp [Node.kind])) (by simpa [Node.children] using at_ 0)
  | transform =>
    cases assembled
    exact at_ 0
  | lazy => exact absurd rfl notLazy

/-- Without a stub, nothing refers anywhere. -/
theorem refers_of_buildNode {enclosing : List (Kind × Place)} {place : Place} {ast : Ast}
    {part : Part} (noStub : ast.hasStub = false)
    (built : buildNode enclosing place ast = .ok part) :
    part.node.All (Node.Refers fun _ ↦ False) := by
  have every : ∀ node : Node, node.kind ≠ .lazy → node.Refers fun _ ↦ False := by
    intro node notLazy
    cases node with
    | lazy => exact absurd rfl notLazy
    | _ => trivial
  induction ast using Ast.induction generalizing enclosing place part with
  | step ast ih =>
    rw [Ast.hasStub_eq, Bool.or_eq_false_iff, decide_eq_false_iff_not,
      Ast.anyStub_eq_false_iff] at noStub
    obtain ⟨noStubs, notLazy⟩ := noStub
    obtain ⟨parts, node, children, assembled, rfl⟩ := buildNode_eq_ok_iff.1 built
    refine all_assemble trivial (fun _ ↦ trivial) (fun node member ↦ ?_) notLazy assembled
      (every node)
    obtain ⟨part, among, rfl⟩ := List.mem_map.1 member
    obtain ⟨child, isChild, _, builtChild⟩ := exists_of_mem_buildList children among
    exact ih child isChild (noStubs child isChild) builtChild

/-- The type of a default without a stub refers nowhere. -/
theorem refers_of_buildList {enclosing : List (Kind × Place)} {place : Place} {ast : Ast}
    {parts : List Part} (built : buildList enclosing place 0 ast.children = .ok parts)
    (inner : Ast) (default : Value) (eq : ast = .optional inner (some default))
    (noStub : inner.hasStub = false) :
    ((parts.map Part.node).getD 0 .null).All (Node.Refers fun _ ↦ False) := by
  subst eq
  have first : (Ast.optional inner (some default)).children[0]? = some inner := rfl
  obtain ⟨part, there, builtInner⟩ := getElem?_of_buildList built first
  rw [List.getD_eq_getElem?_getD, List.getElem?_map, there]
  exact refers_of_buildNode noStub builtInner

/-- Where the type of a default holds no stub, assembling does not depend on references. -/
theorem assemble_congr (references references' : References) {enclosing : List (Kind × Place)}
    {place : Place} {nodes : List Node} {ast : Ast}
    (noStub : ∀ inner default, ast = .optional inner (some default) → inner.hasStub = false →
      (nodes.getD 0 .null).All (Node.Refers fun _ ↦ False)) :
    ast.assemble references' enclosing place nodes =
      ast.assemble references enclosing place nodes := by
  cases ast with
  | optional inner default =>
    cases default with
    | none => rfl
    | some default =>
      rw [Ast.assemble, Ast.assemble]
      split
      · rfl
      · next stub =>
        have refers := noStub inner default rfl (by simpa using stub)
        rw [optionalWithDefault, optionalWithDefault, decodeAt_of_refers refers]
  | _ => rfl

/-! ### What is published -/

/-- The places of a list of entries. -/
def References.places (references : References) : List Place := references.map Prod.fst

/-- What is published at a place stands at and below it, one node at each place. -/
structure Part.Sited (region : Place → Prop) (published : References) : Prop where
  /-- At and below the place. -/
  within : ∀ p ∈ published.places, region p
  /-- One at each place. -/
  unique : published.places.Nodup

private theorem sited_buildList {enclosing : List (Kind × Place)} {place : Place}
    {asts : List Ast} {parts : List Part} {i : Nat}
    (built : buildList enclosing place i asts = .ok parts)
    (each : ∀ ast ∈ asts, ∀ place part, buildNode enclosing place ast = .ok part →
      Part.Sited (place <:+ ·) part.published) :
    Part.Sited (place.From i) (parts.flatMap Part.published) := by
  induction asts generalizing parts i with
  | nil =>
    cases built
    exact ⟨fun _ none ↦ absurd none List.not_mem_nil, List.nodup_nil⟩
  | cons ast rest ih =>
    obtain ⟨part, later, here, tail, rfl⟩ := buildList_cons.1 built
    obtain ⟨first, following⟩ := List.forall_mem_cons.1 each
    have head := first _ _ here
    have last := ih tail following
    constructor
    · intro p member
      simp only [References.places, List.flatMap_cons, List.map_append, List.mem_append] at member
      rcases member with member | member
      · exact .head (head.within p member)
      · exact (last.within p member).tail
    · simp only [References.places, List.flatMap_cons, List.map_append]
      refine List.nodup_append.2 ⟨head.unique, last.unique, ?_⟩
      rintro p here _ later rfl
      exact Place.From.apart (head.within p here) (last.within p later)

theorem sited_of_buildNode {enclosing : List (Kind × Place)} {place : Place} {ast : Ast}
    {part : Part} (built : buildNode enclosing place ast = .ok part) :
    Part.Sited (place <:+ ·) part.published := by
  induction ast using Ast.induction generalizing enclosing place part with
  | step ast ih =>
    obtain ⟨parts, node, children, -, rfl⟩ := buildNode_eq_ok_iff.1 built
    have below := sited_buildList children fun child member _ _ ↦ ih child member
    constructor
    · intro p member
      rcases List.mem_cons.1 member with rfl | member
      · exact List.suffix_refl _
      · exact (below.within p member).below
    · exact List.nodup_cons.2 ⟨fun member ↦ (below.within place member).ne rfl, below.unique⟩

/-- Where a place has one entry, a look-up finds it. -/
theorem lookup_eq_some_iff {references : References} (unique : references.places.Nodup)
    {place : Place} {node : Node} :
    references.lookup place = some node ↔ (place, node) ∈ references := by
  constructor
  · intro found
    obtain ⟨_, _, split, -⟩ := List.lookup_eq_some_iff.1 found
    simp [split]
  · intro member
    induction references with
    | nil => simp at member
    | cons entry rest ih =>
      obtain ⟨p, n⟩ := entry
      obtain ⟨fresh, uniqueRest⟩ := List.nodup_cons.1 unique
      rw [List.lookup_cons]
      rcases List.mem_cons.1 member with same | tail
      · cases same
        simp
      · have other : place ≠ p := by
          rintro rfl
          exact fresh (List.mem_map.2 ⟨_, tail, rfl⟩)
        rw [beq_false_of_ne other]
        exact ih uniqueRest tail

theorem Ast.eq_of_mem_deferred {ast : Ast} {nodes : List Node} {entry : Node × Value}
    (member : entry ∈ ast.deferred nodes) : entry.1 = nodes.getD 0 .null := by
  cases ast with
  | optional inner default =>
    cases default with
    | none => cases member
    | some default =>
      rw [Ast.deferred] at member
      split at member
      · obtain rfl := List.mem_singleton.1 member
        rfl
      · cases member
  | _ => cases member

theorem References.isSome_lookup {references : References} {place : Place}
    (member : place ∈ references.places) : (references.lookup place).isSome = true := by
  obtain ⟨entry, among, rfl⟩ := List.mem_map.1 member
  rw [Option.isSome_iff_ne_none]
  intro absent
  simpa using List.lookup_eq_none_iff.1 absent entry among

/-- All that a part holds refers only to some places. -/
structure Part.Closed (known : Place → Prop) (part : Part) : Prop where
  /-- Its node does. -/
  node : part.node.All (Node.Refers known)
  /-- What it publishes does. -/
  published : ∀ entry ∈ part.published, entry.2.All (Node.Refers known)
  /-- The types of its deferred defaults do. -/
  deferred : ∀ entry ∈ part.deferred, entry.1.All (Node.Refers known)

/-- A stub designates the place of an enclosing description. -/
theorem mem_of_designated? {enclosing : List (Kind × Place)} {kind : Kind} {depth : Option Nat}
    {reference : Place} (designated : designated? enclosing kind depth = some reference) :
    ∃ kind', (kind', reference) ∈ enclosing := by
  match depth with
  | none =>
    obtain ⟨entry, found, rfl⟩ := Option.map_eq_some_iff.1 designated
    exact ⟨entry.1, List.mem_of_find?_eq_some found⟩
  | some 0 => cases designated
  | some (k + 1) =>
    obtain ⟨entry, found, same⟩ := Option.bind_eq_some_iff.1 designated
    split at same
    · cases same
      exact ⟨entry.1, List.mem_of_getElem? found⟩
    · cases same

/-- What is built refers only to what it publishes and to what encloses it. -/
theorem closed_of_buildNode {enclosing : List (Kind × Place)} {place : Place} {ast : Ast}
    {part : Part} (built : buildNode enclosing place ast = .ok part) {known : Place → Prop}
    (enclosed : ∀ entry ∈ enclosing, known entry.2) (own : ∀ p ∈ part.published.places, known p) :
    part.Closed known := by
  have every : ∀ node : Node, node.kind ≠ .lazy → node.Refers known := by
    intro node notLazy
    cases node with
    | lazy => exact absurd rfl notLazy
    | _ => trivial
  induction ast using Ast.induction generalizing enclosing place part with
  | step ast ih =>
    obtain ⟨parts, node, children, assembled, rfl⟩ := buildNode_eq_ok_iff.1 built
    obtain ⟨here, below⟩ := List.forall_mem_cons.1 own
    have inside : ∀ entry ∈ (ast.kind, place) :: enclosing, known entry.2 :=
      List.forall_mem_cons.2 ⟨here, enclosed⟩
    have closed : ∀ part ∈ parts, part.Closed known := by
      intro part among
      obtain ⟨child, member, place', builtChild⟩ := exists_of_mem_buildList children among
      refine ih child member builtChild inside fun p published ↦ below p ?_
      obtain ⟨entry, member, rfl⟩ := List.mem_map.1 published
      exact List.mem_map_of_mem (List.mem_flatMap.2 ⟨part, among, member⟩)
    have nodes : ∀ n ∈ parts.map Part.node, n.All (Node.Refers known) := by
      intro n member
      obtain ⟨part, among, rfl⟩ := List.mem_map.1 member
      exact (closed part among).node
    have nodeClosed : node.All (Node.Refers known) := by
      by_cases notLazy : ast.kind = .lazy
      · cases ast with
        | lazy =>
          rw [Ast.assemble] at assembled
          split at assembled
          · next reference designated =>
            cases assembled
            obtain ⟨kind, member⟩ := mem_of_designated? designated
            exact .intro (enclosed _ member) (by simp [Node.children])
          · cases assembled
        | _ => cases notLazy
      · exact all_assemble trivial (fun _ ↦ trivial) nodes notLazy assembled (every node)
    refine ⟨nodeClosed, List.forall_mem_cons.2 ⟨nodeClosed, ?_⟩, ?_⟩
    · intro entry member
      obtain ⟨part, among, inPart⟩ := List.mem_flatMap.1 member
      exact (closed part among).published entry inPart
    · intro entry member
      rcases List.mem_append.1 member with member | member
      · obtain ⟨part, among, inPart⟩ := List.mem_flatMap.1 member
        exact (closed part among).deferred entry inPart
      · rw [Ast.eq_of_mem_deferred member]
        exact all_getD trivial nodes 0

/-! ### Every part of a description -/

/-- The kinds and places of the parts around a place. -/
def Ast.enclosing : List Ast → Place → List (Kind × Place)
  | parent :: around, _ :: place => (parent.kind, place) :: enclosing around place
  | _, _ => []

theorem Ast.getElem?_enclosing {around : List Ast} {place : Place}
    (length : around.length = place.length) (j : Nat) :
    (Ast.enclosing around place)[j]? =
      around[j]?.map fun above ↦ (above.kind, place.drop (j + 1)) := by
  induction around generalizing place j with
  | nil => simp [Ast.enclosing]
  | cons parent around ih =>
    cases place with
    | nil => cases length
    | cons i place =>
      cases j with
      | zero => rfl
      | succ j => simpa [Ast.enclosing] using ih (Nat.succ.inj length) j

/-- Building finds what a stub designates. -/
theorem designated?_eq_some_iff {around : List Ast} {place : Place}
    (length : around.length = place.length) {kind : Kind} {depth : Option Nat}
    {reference : Place} :
    designated? (Ast.enclosing around place) kind depth = some reference ↔
      ∃ up target, Ast.Designates around kind depth up target ∧ reference = place.drop up := by
  have at_ := Ast.getElem?_enclosing length
  match depth with
  | some 0 =>
    simp only [designated?, reduceCtorEq, false_iff]
    rintro ⟨up, target, designates, -⟩
    have zero := designates.atDepth 0 rfl
    have pos := designates.pos
    omega
  | some (k + 1) =>
    simp only [designated?, at_]
    constructor
    · intro found
      obtain ⟨entry, there, kindEq⟩ := Option.bind_eq_some_iff.1 found
      obtain ⟨target, above, rfl⟩ := Option.map_eq_some_iff.1 there
      split at kindEq
      · next ofKind =>
        cases kindEq
        exact ⟨k + 1, target, ⟨Nat.succ_pos k, above, ofKind, fun _ eq ↦ Option.some.inj eq,
          fun none ↦ by cases none⟩, rfl⟩
      · cases kindEq
    · rintro ⟨up, target, designates, rfl⟩
      obtain rfl := designates.atDepth _ rfl
      have above := designates.found
      rw [Nat.add_sub_cancel] at above
      simp [above, designates.ofKind]
  | none =>
    simp only [designated?, Option.map_eq_some_iff, List.find?_eq_some_iff_getElem]
    constructor
    · rintro ⟨entry, ⟨ofKind, k, lt, entryEq, nearer⟩, rfl⟩
      have there := at_ k
      rw [List.getElem?_eq_getElem lt, entryEq, eq_comm, Option.map_eq_some_iff] at there
      obtain ⟨target, above, rfl⟩ := there
      refine ⟨k + 1, target, ⟨Nat.succ_pos k, above, by simpa using ofKind,
        fun _ eq ↦ (by cases eq), fun _ j near inside aboveJ ↦ ?_⟩, rfl⟩
      have other := nearer j (Nat.lt_of_succ_lt_succ inside)
      have entryJ := at_ j
      rw [List.getElem?_eq_getElem (by omega), aboveJ, Option.map_some,
        Option.some.injEq] at entryJ
      simpa [entryJ] using other
    · rintro ⟨up, target, designates, rfl⟩
      obtain ⟨k, rfl⟩ : ∃ k, up = k + 1 := ⟨up - 1, by have := designates.pos; omega⟩
      have above := designates.found
      rw [Nat.add_sub_cancel] at above
      have there := at_ k
      rw [above, Option.map_some, List.getElem?_eq_some_iff] at there
      obtain ⟨lt, entryEq⟩ := there
      refine ⟨_, ⟨by simpa using designates.ofKind, k, lt, entryEq, fun j inside ↦ ?_⟩, rfl⟩
      have entryJ := at_ j
      rw [List.getElem?_eq_getElem (by omega), eq_comm, Option.map_eq_some_iff] at entryJ
      obtain ⟨near, aboveJ, eq⟩ := entryJ
      rw [← eq]
      simpa using designates.nearest rfl j near (by omega) aboveJ

/-- Every part of a description is built below the parts around it. What it publishes is published
with the whole, and the defaults that it puts off are put off with those of the whole. -/
theorem built_at {root : Ast} {whole : Part} (built : buildNode [] [] root = .ok whole)
    {around : List Ast} {place : Place} {part : Ast} (partAt : root.At around place part) :
    ∃ p, buildNode (Ast.enclosing around place) place part = .ok p
      ∧ (∀ entry ∈ p.published, entry ∈ whole.published)
      ∧ ∀ entry ∈ p.deferred, entry ∈ whole.deferred := by
  induction partAt with
  | root => exact ⟨whole, built, fun _ ↦ id, fun _ ↦ id⟩
  | @child around place parent child i _ found ih =>
    obtain ⟨p, built, published, deferred⟩ := ih
    obtain ⟨parts, node, children, -, rfl⟩ := buildNode_eq_ok_iff.1 built
    obtain ⟨p, there, builtChild⟩ := getElem?_of_buildList children found
    rw [Nat.zero_add] at builtChild
    have among := List.mem_of_getElem? there
    refine ⟨p, builtChild, fun entry member ↦ published entry (List.mem_cons_of_mem _ ?_),
      fun entry member ↦ deferred entry (List.mem_append_left _ ?_)⟩
    · exact List.mem_flatMap.2 ⟨p, among, member⟩
    · exact List.mem_flatMap.2 ⟨p, among, member⟩

/-- The nodes that stand at the places below a place, in order. -/
def References.below (references : References) (place : Place) (count : Nat) : List Node :=
  (List.range count).map fun i ↦ references.resolve (i :: place)

/-- The root of a schema stands at the place of the whole description. -/
theorem Schema.root_of_ofAst {root : Ast} {schema : Schema}
    (built : Schema.ofAst root = .ok schema) :
    schema.references.lookup [] = some schema.root := by
  obtain ⟨whole, builtWhole, last⟩ := bind_eq_ok_iff.1 built
  obtain ⟨_, -, last⟩ := bind_eq_ok_iff.1 last
  cases last
  obtain ⟨parts, node, -, -, rfl⟩ := buildNode_eq_ok_iff.1 builtWhole
  rfl

/-- In the schema of a description, at the place of every part stands what was built from it, which
is assembled around what stands at the places of its children. -/
theorem Schema.assembled_of_ofAst {root : Ast} {schema : Schema}
    (built : Schema.ofAst root = .ok schema) {around : List Ast} {place : Place} {part : Ast}
    (partAt : root.At around place part) :
    ∃ p, buildNode (Ast.enclosing around place) place part = .ok p
      ∧ schema.references.lookup place = some p.node
      ∧ part.assemble schema.references (Ast.enclosing around place) place
          (schema.references.below place part.children.length) = .ok p.node := by
  obtain ⟨whole, builtWhole, last⟩ := bind_eq_ok_iff.1 built
  obtain ⟨_, -, last⟩ := bind_eq_ok_iff.1 last
  cases last
  obtain ⟨p, builtPart, published, -⟩ := built_at builtWhole partAt
  obtain ⟨parts, node, children, assembled, rfl⟩ := buildNode_eq_ok_iff.1 builtPart
  have unique := (sited_of_buildNode builtWhole).unique
  have stands {p : Place} {n : Node} (member : (p, n) ∈ whole.published) :
      whole.published.lookup p = some n :=
    (lookup_eq_some_iff unique).2 member
  have nodes : References.below whole.published place part.children.length =
      parts.map Part.node := by
    refine List.ext_getElem? fun i ↦ ?_
    rw [References.below, List.getElem?_map, List.getElem?_map]
    by_cases inside : i < part.children.length
    · obtain ⟨p, there, builtChild⟩ :=
        getElem?_of_buildList children (List.getElem?_eq_getElem inside)
      rw [Nat.zero_add] at builtChild
      obtain ⟨_, n, -, -, rfl⟩ := buildNode_eq_ok_iff.1 builtChild
      have member : (i :: place, n) ∈ parts.flatMap Part.published :=
        List.mem_flatMap.2 ⟨_, List.mem_of_getElem? there, List.mem_cons_self⟩
      have found := stands (published _ (List.mem_cons_of_mem _ member))
      rw [there, List.getElem?_range inside, Option.map_some, Option.map_some, References.resolve,
        found, Option.getD_some]
    · have length := length_of_buildList children
      rw [List.getElem?_eq_none (by rw [List.length_range]; omega),
        List.getElem?_eq_none (by omega)]
      rfl
  refine ⟨_, builtPart, stands (published _ List.mem_cons_self), ?_⟩
  rw [nodes, ← assembled]
  exact assemble_congr _ _ (refers_of_buildList children)

theorem Ast.At.field {root : Ast} {around : List Ast} {place : Place}
    {fields : List (String × Ast)} {required : List String} {extraKeys : ExtraKeys}
    (partAt : root.At around place (.struct fields required extraKeys)) {i : Nat} {name : String}
    {ast : Ast} (declared : fields[i]? = some (name, ast)) :
    root.At (.struct fields required extraKeys :: around) (i :: place) ast := by
  refine .child partAt ?_
  rw [Ast.children, Entries.values, List.getElem?_map, declared]
  rfl

section Parts

variable {root : Ast} {schema : Schema} (built : Schema.ofAst root = .ok schema)
  {around : List Ast} {place : Place}

include built

/-- At the place of a part stands what was assembled from it. -/
theorem resolve_of_at {part : Ast} (partAt : root.At around place part) :
    part.assemble schema.references (Ast.enclosing around place) place
        (schema.references.below place part.children.length) =
      .ok (schema.references.resolve place) := by
  obtain ⟨p, -, found, assembled⟩ := Schema.assembled_of_ofAst built partAt
  rw [References.resolve, found]
  exact assembled

/-- A transform has no node of its own: what stands at its place is the node of its child. -/
theorem resolve_transform {inner : Ast} {target : String}
    (partAt : root.At around place (.transform inner target)) :
    schema.references.resolve place = schema.references.resolve (0 :: place) :=
  (Except.ok.inj (resolve_of_at built partAt)).symm

/-- At the place of a struct stands a struct with the same field names, and its fields are those
that stand at their own places. -/
theorem Schema.struct_at {fields : List (String × Ast)} {required : List String}
    {extraKeys : ExtraKeys} (structAt : root.At around place (.struct fields required extraKeys)) :
    ∃ nodes, schema.references.resolve place = .struct (some place) nodes extraKeys
      ∧ Entries.keys nodes = Entries.keys fields
      ∧ ∀ (i : Nat) name field, fields[i]? = some (name, field) →
        (name, asField required name (schema.references.resolve (i :: place))) ∈ nodes := by
  have assembled := resolve_of_at built structAt
  have count : (Ast.struct fields required extraKeys).children.length = fields.length := by
    simp [Ast.children, Entries.values]
  rw [count] at assembled
  have length : (schema.references.below place fields.length).length = fields.length := by
    simp [References.below]
  refine ⟨_, (Except.ok.inj assembled).symm, ?_, fun i name field declared ↦ ?_⟩
  · rw [Entries.keys, List.map_map]
    exact Entries.keys_zip length
  · have inside : i < fields.length := (List.getElem?_eq_some_iff.1 declared).1
    have key : (Entries.keys fields)[i]? = some name := by
      rw [Entries.keys, List.getElem?_map, declared]
      rfl
    have below : (schema.references.below place fields.length)[i]? =
        some (schema.references.resolve (i :: place)) := by
      rw [References.below, List.getElem?_map, List.getElem?_range inside]
      rfl
    have named : (name, _) ∈ (Entries.keys fields).zip (schema.references.below place _) :=
      List.mem_of_getElem? (List.getElem?_zip_eq_some.2 ⟨key, below⟩)
    exact List.mem_map.2 ⟨_, named, rfl⟩

end Parts

end Schemata
