import Schemata.Proofs.Schema.Binding
import Schemata.Proofs.Schema.Redescribing

/-!
# When describing ends

Describing goes from a node to its children, and from a reference to what it stands for unless that
is on the stack. References are not put on the stack themselves, and building leaves no node for a
transform: a stub that designates a transform through transforms alone becomes a reference to itself
and is described forever. Nothing else keeps describing from ending
(`Schema.describingEnds_iff`).
-/

namespace Schemata

/-- The calls that describing makes: from a node to its children below it, and from a reference to
what it stands for, where that is not on the stack. -/
inductive References.Calls (references : References) :
    List (Option Place) × Node → List (Option Place) × Node → Prop where
  /-- A child is described below the node. -/
  | child {stack : List (Option Place)} {node child : Node} (member : child ∈ node.children) :
    Calls references (stack, node) (node.place? :: stack, child)
  /-- What a reference stands for is described in its stead. -/
  | target {stack : List (Option Place)} {name : String} {r : Place}
    (away : distanceTo? stack (references.resolve r).place? = none) :
    Calls references (stack, .lazy name r) (stack, references.resolve r)

/-- Describing a schema ends: there is no infinite chain of calls from its root. -/
def Schema.DescribingEnds (schema : Schema) : Prop :=
  Acc (fun callee caller ↦ schema.references.Calls caller callee) ([], schema.root)

/-- From every stub to the part that it designates, that part included, there is a part that is no
transform. -/
def Ast.StubsGuarded (root : Ast) : Prop :=
  ∀ around place name kind depth, root.At around place (.lazy name kind depth) →
    ∀ up target, Ast.Designates around kind depth up target →
      ∃ j < up, ∃ between, around[j]? = some between ∧ between.kind ≠ .transform

/-! ### Calls -/

section Calls

variable {references : References}

/-- What has a description within some hops is described in finitely many calls. -/
theorem acc_of_describeAt {hops : Nat} {stack : List (Option Place)} {node : Node} {ast : Ast}
    (described : describeAt references hops stack node = some ast) :
    Acc (fun callee caller ↦ references.Calls caller callee) (stack, node) := by
  -- On the hops left, and between two hops on the node.
  induction hops using Nat.strongRecOn generalizing stack node ast with
  | ind hops fewer =>
    induction node using Node.induction generalizing stack ast with
    | step node ih =>
      rw [describeAt_eq] at described
      refine .intro _ fun callee call ↦ ?_
      cases call with
      | @child _ _ child member =>
        have notLazy : node.kind ≠ .lazy := by
          rintro isLazy
          cases node with
          | lazy => cases member
          | _ => cases isLazy
        rw [describeNode_eq notLazy, Option.map_eq_some_iff] at described
        obtain ⟨asts, described, -⟩ := described
        obtain ⟨ast, -, here⟩ :=
          forall₂_exists_of_mem (describeList_eq_some_iff.1 described) member
        rw [← describeAt_eq] at here
        exact ih child member here
      | target away =>
        simp only [describeNode, away] at described
        cases hops with
        | zero => cases described
        | succ hops => exact fewer hops (Nat.lt_succ_self hops) described

/-- Every call from what ends ends. -/
theorem acc_of_reaches {caller callee : List (Option Place) × Node}
    (reaches : Relation.ReflTransGen references.Calls caller callee)
    (acc : Acc (fun callee caller ↦ references.Calls caller callee) caller) :
    Acc (fun callee caller ↦ references.Calls caller callee) callee := by
  induction reaches with
  | refl => exact acc
  | tail _ call ih => exact ih.inv call

/-- A reference that stands for itself is described forever. -/
theorem not_acc_of_self {name : String} {r : Place} (self : references.resolve r = .lazy name r)
    (stack : List (Option Place)) :
    ¬Acc (fun callee caller ↦ references.Calls caller callee) (stack, .lazy name r) := by
  have loop : references.Calls (stack, .lazy name r) (stack, .lazy name r) := by
    have away : distanceTo? stack (references.resolve r).place? = none := by
      rw [self]
      rfl
    have call : references.Calls (stack, .lazy name r) (stack, references.resolve r) :=
      .target away
    rwa [self] at call
  intro acc
  generalize (stack, Node.lazy name r) = start at loop acc
  induction acc with
  | intro start _ ih => exact ih start loop loop

end Calls

/-! ### What stands where -/

/-- Whatever is published stands at the place of a part. -/
theorem exists_at_of_published {enclosing : List (Kind × Place)} {place : Place} {ast : Ast}
    {part : Part} (built : buildNode enclosing place ast = .ok part) {p : Place}
    (published : p ∈ part.published.places) :
    ∃ inner below sub, ast.At inner below sub ∧ p = below ++ place := by
  induction ast using Ast.induction generalizing enclosing place part with
  | step ast ih =>
    obtain ⟨parts, node, children, -, rfl⟩ := buildNode_eq_ok_iff.1 built
    rcases List.mem_cons.1 published with rfl | published
    · exact ⟨[], [], ast, .root, rfl⟩
    · obtain ⟨entry, member, rfl⟩ := List.mem_map.1 published
      obtain ⟨part, among, inPart⟩ := List.mem_flatMap.1 member
      obtain ⟨j, lt, rfl⟩ := List.mem_iff_getElem.1 among
      have inside : j < ast.children.length := length_of_buildList children ▸ lt
      have found := List.getElem?_eq_getElem inside
      obtain ⟨part, there, builtChild⟩ := getElem?_of_buildList children found
      obtain rfl : parts[j] = part := by simpa [lt] using there
      rw [Nat.zero_add] at builtChild
      obtain ⟨inner, below, sub, subAt, eq⟩ := ih _ (List.getElem_mem inside) builtChild
        (List.mem_map_of_mem inPart)
      exact ⟨inner ++ [ast], below ++ [j], sub, (Ast.At.child .root found).trans subAt,
        by simp [eq]⟩

section Parts

variable {root : Ast} {schema : Schema} (built : Schema.ofAst root = .ok schema)

include built

/-- A reference of the schema of a description stands for null or for what was built from a part. -/
private theorem exists_at_of_resolve {r : Place}
    (entry : schema.references.resolve r ≠ .null) : ∃ around part, root.At around r part := by
  obtain ⟨before, after, split⟩ := References.exists_of_resolve_ne_null entry
  have member : r ∈ schema.references.places := by
    rw [split]
    simp [References.places]
  obtain ⟨whole, builtWhole, last⟩ := bind_eq_ok_iff.1 built
  obtain ⟨_, -, last⟩ := bind_eq_ok_iff.1 last
  cases last
  obtain ⟨around, below, part, partAt, rfl⟩ := exists_at_of_published builtWhole member
  rw [List.append_nil]
  exact ⟨around, part, partAt⟩

/-- Through transforms alone, the same node stands at a place and above it. -/
private theorem resolve_above {around : List Ast} {place : Place} {part : Ast}
    (partAt : root.At around place part) {up : Nat} (within : up ≤ around.length)
    (transforms : ∀ j < up, ∀ between, around[j]? = some between → between.kind = .transform) :
    schema.references.resolve (place.drop up) = schema.references.resolve place := by
  induction partAt generalizing up with
  | root =>
    obtain rfl : up = 0 := Nat.le_zero.1 within
    rfl
  | @child around place parent child i parentAt found ih =>
    cases up with
    | zero => rfl
    | succ up =>
      have isTransform := transforms 0 (Nat.succ_pos up) parent rfl
      cases parent with
      | transform inner target =>
        have first : i = 0 := by
          have inside := (List.getElem?_eq_some_iff.1 found).1
          simpa [Ast.children] using inside
        rw [List.drop_succ_cons, ih (Nat.le_of_succ_le_succ within) fun j lt between there ↦
          transforms (j + 1) (Nat.succ_lt_succ lt) between there, first]
        exact resolve_transform built parentAt
      | _ => cases isTransform

/-- Where a reference stands, there is a stub below, through transforms alone. -/
private theorem exists_stub_of_resolve {around : List Ast} {place : Place} {part : Ast}
    (partAt : root.At around place part) {name : String} {r : Place}
    (isLazy : schema.references.resolve place = .lazy name r) :
    ∃ inner below kind depth, root.At (inner ++ around) (below ++ place) (.lazy name kind depth)
      ∧ (∀ between ∈ inner, between.kind = .transform)
      ∧ schema.references.resolve (below ++ place) = .lazy name r := by
  induction part using Ast.induction generalizing around place with
  | step part ih =>
    by_cases isTransform : part.kind = .transform
    · cases part with
      | transform child target =>
        have childAt : root.At (.transform child target :: around) (0 :: place) child :=
          .child partAt rfl
        rw [resolve_transform built partAt] at isLazy
        obtain ⟨inner, below, kind, depth, stubAt, transforms, eq⟩ :=
          ih child (by simp [Ast.children]) childAt isLazy
        refine ⟨inner ++ [.transform child target], below ++ [0], kind, depth,
          by simpa using stubAt, ?_, by simpa using eq⟩
        intro between member
        rcases List.mem_append.1 member with member | member
        · exact transforms between member
        · rw [List.mem_singleton.1 member, Ast.kind]
      | _ => cases isTransform
    · obtain ⟨kindEq, -⟩ := kind_place?_of_assemble isTransform (resolve_of_at built partAt)
      rw [isLazy] at kindEq
      cases part with
      | lazy name' kind depth =>
        have assembled := resolve_of_at built partAt
        rw [isLazy, Ast.assemble] at assembled
        split at assembled
        · cases assembled
          exact ⟨[], [], kind, depth, partAt, by simp, isLazy⟩
        · cases assembled
      | _ => cases kindEq

/-- Where stubs are guarded, what a reference leads to stands further up. -/
private theorem length_lt_of_leads (guarded : root.StubsGuarded) {r r' : Place}
    (leads : schema.references.Leads r r') : r'.length < r.length := by
  obtain ⟨name, isLazy⟩ := leads
  obtain ⟨around, part, partAt⟩ := exists_at_of_resolve built (by rw [isLazy]; simp)
  obtain ⟨inner, below, kind, depth, stubAt, transforms, eq⟩ :=
    exists_stub_of_resolve built partAt isLazy
  obtain ⟨up, target, -, designates, -, -, stands, -⟩ :=
    (Schema.binds_of_ofAst built).stub _ _ _ _ _ stubAt
  rw [References.resolve, stands, Option.getD_some] at eq
  obtain ⟨-, rfl⟩ := Node.lazy.inj eq
  obtain ⟨j, lt, between, there, noTransform⟩ :=
    guarded _ _ _ _ _ stubAt up target designates
  -- The transforms below the reference do not guard its stub, so what does stands above it.
  have above : inner.length ≤ j := by
    by_contra within
    rw [List.getElem?_append_left (Nat.lt_of_not_le within)] at there
    exact noTransform (transforms between (List.mem_of_getElem? there))
  have lengths := stubAt.length_eq
  have outer := partAt.length_eq
  have inside := (List.getElem?_eq_some_iff.1 designates.found).1
  simp only [List.length_append, List.length_drop] at lengths inside ⊢
  omega

private theorem guarded_of_stubsGuarded (guarded : root.StubsGuarded) :
    schema.references.Guarded := by
  have shorter {r r' : Place} (chain : Relation.TransGen schema.references.Leads r r') :
      r'.length < r.length := by
    induction chain with
    | single leads => exact length_lt_of_leads built guarded leads
    | tail _ leads ih => exact Nat.lt_trans (length_lt_of_leads built guarded leads) ih
  exact fun r cycle ↦ Nat.lt_irrefl _ (shorter cycle)

/-- Whatever has children in the schema of a description has a place. -/
theorem Schema.placed_of_ofAst : schema.references.Placed := by
  intro r
  by_cases entry : schema.references.resolve r = .null
  · exact .inl (by rw [entry]; rfl)
  · obtain ⟨around, part, partAt⟩ := exists_at_of_resolve built entry
    clear entry
    induction part using Ast.induction generalizing around r with
    | step part ih =>
      by_cases isTransform : part.kind = .transform
      · cases part with
        | transform inner target =>
          rw [resolve_transform built partAt]
          exact ih inner (by simp [Ast.children]) (0 :: r) _ (.child partAt rfl)
        | _ => cases isTransform
      · obtain ⟨-, placed | ⟨leaf, -⟩⟩ :=
          kind_place?_of_assemble isTransform (resolve_of_at built partAt)
        · exact .inr (by rw [placed]; rfl)
        · exact .inl leaf

end Parts

/-- The node of a child is the node that is assembled around it, where that is a transform, or a
child of it, or as a field it is wrapped by a child. -/
theorem child_of_assemble {references : References} {enclosing : List (Kind × Place)}
    {place : Place} {nodes : List Node} {ast : Ast} {node : Node}
    (assembled : ast.assemble references enclosing place nodes = .ok node)
    (length : nodes.length = ast.children.length) {child : Node} (among : child ∈ nodes) :
    node = child ∨ child ∈ node.children ∨ .optional none child none ∈ node.children := by
  cases ast with
  | string | number | integer | boolean | null | symbol | literal | lazy =>
    obtain rfl := List.eq_nil_of_length_eq_zero length
    cases among
  | array =>
    cases assembled
    obtain ⟨n, rfl⟩ := List.length_eq_one_iff.1 length
    exact .inr (.inl among)
  | tuple | union =>
    cases assembled
    exact .inr (.inl among)
  | struct fields required extraKeys =>
    cases assembled
    have named : child ∈ Entries.values ((Entries.keys fields).zip nodes) := by
      rwa [Entries.values_zip (by simpa [Ast.children, Entries.values] using length)]
    obtain ⟨⟨name, n⟩, member, rfl⟩ := List.mem_map.1 named
    have declared : (name, asField required name n) ∈
        ((Entries.keys fields).zip nodes).map fun f ↦ (f.1, asField required f.1 f.2) :=
      List.mem_map.2 ⟨_, member, rfl⟩
    have field := List.mem_map_of_mem (f := Prod.snd) declared
    rw [asField] at field
    split at field
    · exact .inr (.inl field)
    · exact .inr (.inr field)
  | record =>
    cases assembled
    obtain ⟨k, v, rfl⟩ := List.length_eq_two.1 length
    exact .inr (.inl among)
  | discriminatedUnion discriminator variants =>
    obtain ⟨_, -, last⟩ := bind_eq_ok_iff.1 assembled
    cases last
    refine .inr (.inl ?_)
    rwa [Node.children, Entries.values_zip (by simpa [Ast.children, Entries.values] using length)]
  | optional =>
    obtain ⟨_, rfl⟩ := optional_of_assemble assembled
    obtain ⟨n, rfl⟩ := List.length_eq_one_iff.1 length
    exact .inr (.inl among)
  | transform =>
    cases assembled
    obtain ⟨n, rfl⟩ := List.length_eq_one_iff.1 length
    exact .inl (List.mem_singleton.1 among).symm

section Whole

variable {root : Ast} {schema : Schema} (built : Schema.ofAst root = .ok schema)

include built

/-- Describing comes to what stands at the place of every part. -/
theorem reaches_of_at {around : List Ast} {place : Place} {part : Ast}
    (partAt : root.At around place part) : ∃ stack,
      Relation.ReflTransGen schema.references.Calls ([], schema.root)
        (stack, schema.references.resolve place) := by
  induction partAt with
  | root =>
    refine ⟨[], ?_⟩
    rw [References.resolve, Schema.root_of_ofAst built, Option.getD_some]
  | @child around place parent child i parentAt found ih =>
    obtain ⟨stack, reaches⟩ := ih
    have inside := (List.getElem?_eq_some_iff.1 found).1
    have among : schema.references.resolve (i :: place) ∈
        schema.references.below place parent.children.length :=
      List.mem_map.2 ⟨i, List.mem_range.2 inside, rfl⟩
    rcases child_of_assemble (resolve_of_at built parentAt) (by simp [References.below]) among with
      same | member | wrapped
    · exact ⟨stack, same ▸ reaches⟩
    · exact ⟨_, reaches.tail (.child member)⟩
    · exact ⟨_, (reaches.tail (.child wrapped)).tail (.child (List.mem_singleton.2 rfl))⟩

/-- A stub that is not guarded becomes a reference to itself. -/
private theorem stubsGuarded_of_describingEnds (ends : schema.DescribingEnds) :
    root.StubsGuarded := by
  intro around place name kind depth stubAt up target designates
  by_contra unguarded
  push Not at unguarded
  have designated := (designated?_eq_some_iff stubAt.length_eq).2 ⟨up, target, designates, rfl⟩
  have assembled := resolve_of_at built stubAt
  rw [Ast.assemble, designated] at assembled
  have isLazy := (Except.ok.inj assembled).symm
  have within : up ≤ around.length := by
    have inside := (List.getElem?_eq_some_iff.1 designates.found).1
    have pos := designates.pos
    omega
  have self := resolve_above built stubAt within unguarded
  obtain ⟨stack, reaches⟩ := reaches_of_at built stubAt
  rw [isLazy] at self reaches
  exact not_acc_of_self self stack (acc_of_reaches reaches ends)

/-- Describing the schema of a description ends if and only if every stub is guarded, and exactly
then the schema has a description. -/
theorem Schema.describingEnds_iff :
    (schema.DescribingEnds ↔ root.StubsGuarded)
      ∧ (schema.DescribingEnds ↔ ∃ ast, schema.toAst? = some ast) := by
  have described (guarded : root.StubsGuarded) : ∃ ast, schema.toAst? = some ast :=
    Schema.exists_toAst? (guarded_of_stubsGuarded built guarded) (Schema.placed_of_ofAst built)
  have ends : (∃ ast, schema.toAst? = some ast) → schema.DescribingEnds :=
    fun ⟨_, described⟩ ↦ acc_of_describeAt described
  have guarded := stubsGuarded_of_describingEnds built
  exact ⟨⟨guarded, ends ∘ described⟩, described ∘ guarded, ends⟩

end Whole

/-- A person, converted as a whole, who may have a friend: a converted person once more, since the
stub designates the outer transform. -/
def Ast.friend : Ast :=
  .transform (.struct [("friend",
    .optional (.transform (.lazy "friend" .transform (some 4)) "Friend") none)] [] .reject) "Person"

/-- Between the stub and the outer transform stands a struct, so describing ends. -/
theorem Schema.describingEnds_friend :
    ∃ schema, ofAst .friend = .ok schema ∧ schema.DescribingEnds ∧ Ast.friend.StubsGuarded := by
  obtain ⟨schema, built, described⟩ :
      ∃ schema, ofAst .friend = .ok schema ∧ ∃ ast, schema.toAst? = some ast :=
    ⟨_, rfl, _, rfl⟩
  obtain ⟨guarded, exists_⟩ := Schema.describingEnds_iff built
  exact ⟨schema, built, exists_.2 described, guarded.1 (exists_.2 described)⟩

/-- A transform of itself alone. -/
def Ast.itself : Ast := .transform (.lazy "itself" .transform (some 1)) "itself"

/-- A transform of itself builds, and describing what is built does not end: no number of hops is
enough. -/
theorem Schema.describing_itself_diverges :
    ∃ schema, ofAst .itself = .ok schema ∧ ¬schema.DescribingEnds ∧ schema.toAst? = none
      ∧ ∀ hops, describeAt schema.references hops [] schema.root = none := by
  have diverges : ¬Acc
      (fun callee caller ↦ References.Calls
        [([], .lazy "itself" []), ([0], .lazy "itself" [])] caller callee)
      ([], .lazy "itself" []) := not_acc_of_self rfl []
  refine ⟨⟨.lazy "itself" [], [([], .lazy "itself" []), ([0], .lazy "itself" [])]⟩, rfl, diverges,
    ?_, fun hops ↦ ?_⟩
  · exact Option.eq_none_iff_forall_ne_some.2 fun ast described ↦
      diverges (acc_of_describeAt described)
  · exact Option.eq_none_iff_forall_ne_some.2 fun ast described ↦
      diverges (acc_of_describeAt described)

end Schemata
