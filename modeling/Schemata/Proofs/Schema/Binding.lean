import Schemata.Proofs.Schema.Constructing

/-!
# What stubs are bound to

In the schema of a description, every stub stands for the node that was built from the part that it
designates, and a stub that designates none fails the whole once it is reached
(`Schema.ofAst_binds`). Since no slot is read before it is written, this holds of every look-up, of
those while the schema is made too.
-/

namespace Schemata

/-- The parts of a description that building comes to: the whole, and of a part that it comes to the
children up to the first that does not build. -/
inductive Ast.Reached (root : Ast) : (around : List Ast) → Place → (part : Ast) → Prop where
  /-- The whole description. -/
  | root : Reached root [] [] root
  /-- A child whose earlier siblings build. -/
  | child {around : List Ast} {place : Place} {parent child : Ast} {i : Nat}
      (parentReached : Reached root around place parent) (found : parent.children[i]? = some child)
      (earlier : ∀ j < i, ∀ sibling, parent.children[j]? = some sibling → ∃ part,
        buildNode (Ast.enclosing (parent :: around) (j :: place)) (j :: place) sibling = .ok part) :
      Reached root (parent :: around) (i :: place) child

/-- The table of a schema as the parts of a description make it. -/
structure Schema.Binds (root : Ast) (schema : Schema) : Prop where
  /-- The root stands at the place of the whole. -/
  whole : schema.references.lookup [] = some schema.root
  /-- At the place of a part stands what was built from it, which is assembled around what stands at
  the places of its children. -/
  part : ∀ around place part, root.At around place part → ∃ built,
    buildNode (Ast.enclosing around place) place part = .ok built
      ∧ schema.references.lookup place = some built.node
      ∧ part.assemble schema.references (Ast.enclosing around place) place
          (schema.references.below place part.children.length) = .ok built.node
  /-- A stub designates a part around it, and is a reference that stands for what was built from
  that part. -/
  stub : ∀ around place name kind depth, root.At around place (.lazy name kind depth) →
    ∃ up target built, Ast.Designates around kind depth up target
      ∧ root.At (around.drop up) (place.drop up) target
      ∧ buildNode (Ast.enclosing (around.drop up) (place.drop up)) (place.drop up) target =
        .ok built
      ∧ schema.references.lookup place = some (.lazy name (place.drop up))
      ∧ schema.references.lookup (place.drop up) = some built.node

section

variable {root : Ast} {around : List Ast} {place : Place} {part : Ast}

theorem Ast.Reached.at (reached : root.Reached around place part) :
    root.At around place part := by
  induction reached with
  | root => exact .root
  | child _ found _ ih => exact .child ih found

/-- A part that is reached and does not build fails the whole. -/
theorem Ast.Reached.error (reached : root.Reached around place part) {error : SchemaError}
    (failed : buildNode (Ast.enclosing around place) place part = .error error) :
    buildNode [] [] root = .error error := by
  induction reached with
  | root => exact failed
  | @child around place parent child i _ found earlier ih =>
    have children : buildList ((parent.kind, place) :: Ast.enclosing around place) place 0
        parent.children = .error error := by
      refine buildList_error found (fun j lt sibling there ↦ ?_) ?_
      · rw [Nat.zero_add]
        exact earlier j lt sibling there
      · rw [Nat.zero_add]
        exact failed
    refine ih ?_
    rw [buildNode_eq, children]
    rfl

/-- In the schema of a description, stubs are bound. -/
theorem Schema.binds_of_ofAst {schema : Schema} (built : Schema.ofAst root = .ok schema) :
    schema.Binds root where
  whole := Schema.root_of_ofAst built
  part _ _ _ partAt := Schema.assembled_of_ofAst built partAt
  stub around place name kind depth partAt := by
    obtain ⟨_, -, found, assembled⟩ := Schema.assembled_of_ofAst built partAt
    rw [Ast.assemble] at assembled
    split at assembled
    · next reference designated =>
      rw [← Except.ok.inj assembled] at found
      obtain ⟨up, target, designates, rfl⟩ :=
        (designated?_eq_some_iff partAt.length_eq).1 designated
      have targetAt := partAt.above designates.found
      rw [Nat.sub_add_cancel designates.pos] at targetAt
      obtain ⟨p, builtTarget, there, -⟩ := Schema.assembled_of_ofAst built targetAt
      exact ⟨up, target, p, designates, targetAt, builtTarget, found, there⟩
    · cases assembled

end

/-- If a description builds, then every stub in it designates a part around it and stands for what
was built from that part, and building it step by step writes each slot once and reads none before.
If building comes to a stub that designates nothing, it fails with that. -/
theorem Schema.ofAst_binds (root : Ast) :
    (∀ schema, Schema.ofAst root = .ok schema → schema.Binds root
        ∧ ∃ construction, Schema.construct root = .ok (schema.root, construction)
          ∧ construction.early = [] ∧ construction.slots.places.Nodup
          ∧ ∀ slot, construction.slots.lookup slot = schema.references.lookup slot)
      ∧ ∀ around place name kind depth, root.Reached around place (.lazy name kind depth) →
        (∀ up target, ¬Ast.Designates around kind depth up target) →
        Schema.ofAst root = .error (.unsupported (.danglingReference name kind))
          ∧ Schema.construct root = .error (.unsupported (.danglingReference name kind)) := by
  have follows := Schema.follows_construct root
  refine ⟨fun schema built ↦ ⟨Schema.binds_of_ofAst built, ?_⟩,
    fun around place name kind depth reached dangling ↦ ?_⟩
  · rw [built] at follows
    obtain ⟨constructed, construction, run, rfl, early, once, same⟩ := follows.ok
    exact ⟨construction, run, early, once, same⟩
  · have none : designated? (Ast.enclosing around place) kind depth = none := by
      rw [Option.eq_none_iff_forall_ne_some]
      intro reference designated
      obtain ⟨up, target, designates, -⟩ :=
        (designated?_eq_some_iff reached.at.length_eq).1 designated
      exact dangling up target designates
    have refused : buildNode (Ast.enclosing around place) place (.lazy name kind depth) =
        .error (.unsupported (.danglingReference name kind)) := by
      rw [buildNode, none]
      rfl
    have failed : Schema.ofAst root = .error (.unsupported (.danglingReference name kind)) := by
      rw [Schema.ofAst, reached.error refused]
      rfl
    rw [failed] at follows
    exact ⟨failed, follows.error⟩

/-- A chapter: its title, whether it is shown, and parts that are chapters; by default it is shown
and has none. -/
def Ast.chapter : Ast :=
  .struct
    [("title", .string {}), ("shown", .optional .boolean (some (.bool true))),
      ("parts", .optional (.array (.lazy "chapter" .struct none) {}) (some (.array [])))]
    ["title"] .reject

/-- A stub whose parent is not of its kind. -/
def Ast.dangling : Ast := .array (.lazy "chapter" .struct (some 1)) {}

/-- The stub of a chapter is bound past an array and an optional; one that asks for a struct where
an array stands is refused. -/
theorem Schema.ofAst_binds_chapter :
    (∃ schema construction, Schema.ofAst .chapter = .ok schema ∧ schema.Binds .chapter
        ∧ Schema.construct .chapter = .ok (schema.root, construction) ∧ construction.early = [])
      ∧ Schema.ofAst .dangling = .error (.unsupported (.danglingReference "chapter" .struct)) := by
  constructor
  · obtain ⟨schema, built⟩ : ∃ schema, Schema.ofAst .chapter = .ok schema := ⟨_, rfl⟩
    obtain ⟨binds, construction, run, early, -, -⟩ := (ofAst_binds .chapter).1 schema built
    exact ⟨schema, construction, built, binds, run, early⟩
  · have reached : Ast.dangling.Reached [.dangling] [0] (.lazy "chapter" .struct (some 1)) :=
      .child .root rfl fun _ none ↦ absurd none (Nat.not_lt_zero _)
    refine ((ofAst_binds .dangling).2 _ _ _ _ _ reached fun up target designates ↦ ?_).1
    obtain rfl := designates.atDepth 1 rfl
    obtain rfl : Ast.dangling = target := by simpa using designates.found
    exact absurd designates.ofKind (by decide)

end Schemata
