import Mathlib.Logic.Function.Basic
import Schemata.Proofs.Schema.Building
import Schemata.Proofs.Schema.Nodes
import Schemata.Schema.Blueprint

/-!
# Declared schemas are well-formed

What the constructors of a blueprint see to: in every schema that is declared, no struct has two
fields of one name and the variants of discriminated unions fit their tags
(`Blueprint.toSchema_formed`), and a place belongs to one node (`Blueprint.toSchema_sited`).

A declaration takes new nodes from one region of places, that below its own place, and uses finished
nodes from elsewhere. `Declares` says so for one step and for a sequence of steps, whose regions are
disjoint.
-/

namespace Schemata

namespace Node

/-- A node is well-formed and the one at its place, which is among some places. -/
structure Stands (sites : Place → Node) (region : Place → Prop) (node : Node) : Prop where
  /-- Names and tags are as the constructors check them. -/
  formed : node.Formed
  /-- A node with children has a place. -/
  placed : node.children = [] ∨ node.place?.isSome
  /-- The node stands at its place. -/
  site : ∀ place, node.place? = some place → sites place = node ∧ region place

theorem stands_null (sites : Place → Node) (region : Place → Prop) :
    Node.null.All (Stands sites region) :=
  .intro ⟨trivial, .inl rfl, fun _ none ↦ by cases none⟩ fun _ none ↦ by cases none

/-- Places outside of a region may change hands. -/
theorem Stands.transfer {sites sites' : Place → Node} {region region' : Place → Prop} {node : Node}
    (stands : node.All (Stands sites region)) (same : ∀ p, region p → sites' p = sites p)
    (sub : ∀ p, region p → region' p) : node.All (Stands sites' region') := by
  refine stands.imp fun node here ↦ ⟨here.formed, here.placed, fun place at_ ↦ ?_⟩
  obtain ⟨site, inside⟩ := here.site place at_
  exact ⟨(same place inside).trans site, sub place inside⟩

end Node

/-- The finished nodes stand at places that are used. -/
def Progress.Stands (sites : Place → Node) (used : Place → Prop) (progress : Progress) : Prop :=
  ∀ entry ∈ progress.finished, entry.2.All (Node.Stands sites used)

/-- Nodes were declared in a region: wherever the finished nodes stand outside of it, the new ones
can be placed in it, and no definition was finished. -/
structure Declares (used region : Place → Prop) (progress progress' : Progress)
    (nodes : List Node) : Prop where
  /-- No definition was finished. -/
  finished : progress'.finished = progress.finished
  /-- The new nodes stand in the region or are among the finished ones. -/
  stands : (∀ p, used p → ¬region p) → ∀ sites, progress.Stands sites used → ∃ sites',
    (∀ p, ¬region p → sites' p = sites p)
      ∧ ∀ node ∈ nodes, node.All (Node.Stands sites' fun p ↦ region p ∨ used p)

section Steps

variable {used : Place → Prop} {progress progress' progress'' : Progress} {place : Place}

/-- A node without children and place. -/
theorem Declares.leaf {region : Place → Prop} {node : Node} (leaf : node.children = [])
    (formed : node.Formed) (noPlace : node.place? = none)
    (finished : progress'.finished = progress.finished) :
    Declares used region progress progress' [node] where
  finished := finished
  stands _ sites _ := by
    refine ⟨sites, fun _ _ ↦ rfl, fun node' member ↦ ?_⟩
    obtain rfl := List.mem_singleton.1 member
    refine .intro ⟨formed, .inl leaf, fun place at_ ↦ ?_⟩ (fun child below ↦ ?_)
    · simp [noPlace] at at_
    · simp [leaf] at below

theorem Declares.nil {region : Place → Prop} : Declares used region progress progress [] where
  finished := rfl
  stands _ sites _ := ⟨sites, fun _ _ ↦ rfl, fun _ member ↦ absurd member List.not_mem_nil⟩

/-- A step that finishes no definition may follow. -/
theorem Declares.later {region : Place → Prop} {nodes : List Node}
    (declares : Declares used region progress progress' nodes)
    (finished : progress''.finished = progress'.finished) :
    Declares used region progress progress'' nodes where
  finished := finished.trans declares.finished
  stands := declares.stands

/-- One child after another: they take places below different children. -/
theorem Declares.cons {i : Nat} {node : Node} {nodes : List Node}
    (head : Declares used ((i :: place) <:+ ·) progress progress' [node])
    (tail : Declares used (place.From (i + 1)) progress' progress'' nodes) :
    Declares used (place.From i) progress progress'' (node :: nodes) where
  finished := tail.finished.trans head.finished
  stands free sites known := by
    obtain ⟨sites₁, same₁, head'⟩ :=
      head.stands (fun p inside below ↦ free p inside (.head below)) sites known
    have known₁ : progress'.Stands sites₁ used := by
      intro entry member
      refine Node.Stands.transfer (known entry (head.finished ▸ member)) (fun p inside ↦ ?_)
        fun _ ↦ id
      exact same₁ p fun below ↦ free p inside (.head below)
    obtain ⟨sites₂, same₂, tail'⟩ :=
      tail.stands (fun p inside below ↦ free p inside below.tail) sites₁ known₁
    refine ⟨sites₂, fun p not ↦ ?_, fun node' member ↦ ?_⟩
    · rw [same₂ p fun inside ↦ not inside.tail, same₁ p fun below ↦ not (.head below)]
    · rcases List.mem_cons.1 member with rfl | member
      · refine Node.Stands.transfer (head' _ List.mem_cons_self) (fun p inside ↦ same₂ p ?_) ?_
        · intro later
          rcases inside with here | here
          · exact Place.From.apart here later
          · exact free p here later.tail
        · exact fun p ↦ .imp_left .head
      · exact Node.Stands.transfer (tail' _ member) (fun _ _ ↦ rfl) fun p ↦ .imp_left .tail

/-- A node at a place around its children. -/
theorem Declares.node {node : Node} {nodes : List Node} (formed : node.Formed)
    (at_ : node.place? = some place) (sub : ∀ child ∈ node.children, child ∈ nodes)
    (children : Declares used (place.From 0) progress progress' nodes) :
    Declares used (place <:+ ·) progress progress' [node] where
  finished := children.finished
  stands free sites known := by
    obtain ⟨sites', same, stands⟩ :=
      children.stands (fun p inside below ↦ free p inside below.below) sites known
    refine ⟨Function.update sites' place node, fun p not ↦ ?_, fun node' member ↦ ?_⟩
    · rw [Function.update_of_ne, same p fun inside ↦ not inside.below]
      rintro rfl
      exact not (List.suffix_refl p)
    · obtain rfl := List.mem_singleton.1 member
      refine .intro ⟨formed, .inr (by simp [at_]), fun place' at' ↦ ?_⟩ fun child below ↦ ?_
      · obtain rfl : place = place' := by simpa [at_] using at'
        exact ⟨Function.update_self .., .inl (List.suffix_refl place)⟩
      · refine Node.Stands.transfer (stands child (sub child below)) (fun p inside ↦ ?_) ?_
        · refine Function.update_of_ne ?_ ..
          rcases inside with inside | inside
          · exact inside.ne
          · rintro rfl
            exact free p inside (List.suffix_refl p)
        · exact fun p ↦ .imp_left Place.From.below

/-- The node of a definition. -/
theorem Declares.definition {region : Place → Prop} (name : String) :
    Declares used region progress progress [progress.node name] where
  finished := rfl
  stands _ sites known := by
    refine ⟨sites, fun _ _ ↦ rfl, fun node member ↦ ?_⟩
    obtain rfl := List.mem_singleton.1 member
    rw [Progress.node]
    cases found : Entries.get? name progress.finished with
    | none => exact Node.stands_null _ _
    | some node =>
      exact Node.Stands.transfer (known _ (Entries.mem_of_get?_eq_some found)) (fun _ _ ↦ rfl)
        fun _ ↦ .inr

end Steps

/-! ### What each step of a declaration does -/

namespace Declaring

variable {α β : Type} {progress progress'' : Progress}

/-- A sequence of two steps succeeds if both do. -/
theorem bind_eq_ok_iff {first : Declaring α} {next : α → Declaring β} {b : β} :
    (first >>= next) progress = .ok (b, progress'') ↔
      ∃ a progress', first progress = .ok (a, progress')
        ∧ next a progress' = .ok (b, progress'') := by
  show (first progress >>= fun r ↦ next r.1 r.2) = _ ↔ _
  rw [Schemata.bind_eq_ok_iff]
  constructor
  · rintro ⟨⟨a, progress'⟩, here, later⟩
    exact ⟨a, progress', here, later⟩
  · rintro ⟨a, progress', here, later⟩
    exact ⟨(a, progress'), here, later⟩

/-- A step that only checks leaves the progress as it is. -/
theorem of_lift {result : Except SchemaError α} {a : α}
    (ok : (liftM result : Declaring α) progress = .ok (a, progress'')) :
    result = .ok a ∧ progress'' = progress := by
  cases result with
  | error e => cases ok
  | ok b =>
    cases ok
    exact ⟨rfl, rfl⟩

end Declaring

/-- A statement about what is declared in a region of places that each step of a declaration keeps:
it then holds of every declaration. -/
structure Declaring.Kept
    (Q : (region : Place → Prop) → Progress → Progress → List Node → Prop) : Prop where
  /-- A node without children is made. -/
  leaf : ∀ {place progress} {node : Node}, node.children = [] → node.kind ≠ .lazy → node.Formed →
    node.place? = none → Q (place <:+ ·) progress progress [node]
  /-- A reference is made. -/
  lazy : ∀ {place progress} name target, Q (place <:+ ·) progress
    { progress with references := (place, target) :: progress.references } [.lazy name place]
  /-- The node of a definition is taken. -/
  definition : ∀ {place progress} name, Q (place <:+ ·) progress progress [progress.node name]
  /-- Nothing is made. -/
  nil : ∀ {place : Place} {i progress}, Q (place.From i) progress progress []
  /-- One child is made after another. -/
  cons : ∀ {place : Place} {i progress progress' progress''} {node : Node} {nodes : List Node},
    Q ((i :: place) <:+ ·) progress progress' [node] →
    Q (place.From (i + 1)) progress' progress'' nodes →
    Q (place.From i) progress progress'' (node :: nodes)
  /-- A node is made around its children. -/
  node : ∀ {place : Place} {progress progress'} {node : Node} {nodes : List Node}, node.Formed →
    node.NoDefault → node.kind ≠ .lazy → node.place? = some place →
    (∀ child ∈ node.children, child ∈ nodes) →
    Q (place.From 0) progress progress' nodes → Q (place <:+ ·) progress progress' [node]
  /-- A default is decoded. -/
  default : ∀ {place : Place} {progress progress'} {type : Node} {default decoded : Value},
    decodeAt progress'.table defaultMaxDepth defaultMaxDepth type default = .ok decoded →
    Q (place.From 0) progress progress' [type] →
    Q (place <:+ ·) progress (progress'.afterDecoding type default)
      [.optional (some place) type (some decoded)]

namespace Blueprint

section Kept

variable {Q : (region : Place → Prop) → Progress → Progress → List Node → Prop}

mutual

/-- What every step keeps holds of a declaration, in the region at and below its place. -/
theorem kept_declare (kept : Declaring.Kept Q) {progress progress' : Progress} {place : Place} :
    (blueprint : Blueprint) → {node : Node} →
    declare place blueprint progress = .ok (node, progress') →
    Q (place <:+ ·) progress progress' [node]
  | .string c, node, ok => by
    obtain ⟨type, _, lifted, last⟩ := Declaring.bind_eq_ok_iff.1 ok
    obtain ⟨-, rfl⟩ := Declaring.of_lift lifted
    cases last
    exact kept.leaf rfl (by simp [Node.kind]) trivial rfl
  | .literal values, node, ok => by
    obtain ⟨type, _, lifted, last⟩ := Declaring.bind_eq_ok_iff.1 ok
    obtain ⟨-, rfl⟩ := Declaring.of_lift lifted
    cases last
    exact kept.leaf rfl (by simp [Node.kind]) trivial rfl
  | .number c, node, ok => by
    cases ok
    exact kept.leaf rfl (by simp [Node.kind]) trivial rfl
  | .integer c, node, ok => by
    cases ok
    exact kept.leaf rfl (by simp [Node.kind]) trivial rfl
  | .boolean, node, ok => by
    cases ok
    exact kept.leaf rfl (by simp [Node.kind]) trivial rfl
  | .null, node, ok => by
    cases ok
    exact kept.leaf rfl (by simp [Node.kind]) trivial rfl
  | .symbol, node, ok => by
    cases ok
    exact kept.leaf rfl (by simp [Node.kind]) trivial rfl
  | .lazy name target, node, ok => by
    cases ok
    exact kept.lazy name target
  | .definition name, node, ok => by
    cases ok
    exact kept.definition name
  | .array item c, node, ok => by
    obtain ⟨child, _, here, last⟩ := Declaring.bind_eq_ok_iff.1 ok
    cases last
    exact kept.node trivial trivial (by simp [Node.kind]) rfl (fun _ ↦ id)
      (kept.cons (kept_declare kept item here) kept.nil)
  | .tuple elements, node, ok => by
    obtain ⟨nodes, _, here, last⟩ := Declaring.bind_eq_ok_iff.1 ok
    cases last
    exact kept.node trivial trivial (by simp [Node.kind]) rfl (fun _ ↦ id)
      (kept_declareList kept elements here)
  | .struct fields extraKeys, node, ok => by
    obtain ⟨nodes, _, here, last⟩ := Declaring.bind_eq_ok_iff.1 ok
    cases last
    refine kept.node (Entries.distinct_ofList nodes) trivial (by simp [Node.kind]) rfl
      (fun child below ↦ ?_) (kept_declareEntries kept fields here)
    obtain ⟨entry, member, rfl⟩ := List.mem_map.1 below
    exact List.mem_map_of_mem (Entries.mem_of_mem_ofList member)
  | .record key value, node, ok => by
    obtain ⟨keyNode, _, hereKey, later⟩ := Declaring.bind_eq_ok_iff.1 ok
    obtain ⟨valueNode, _, hereValue, last⟩ := Declaring.bind_eq_ok_iff.1 later
    cases last
    exact kept.node trivial trivial (by simp [Node.kind]) rfl (fun _ ↦ id)
      (kept.cons (kept_declare kept key hereKey)
        (kept.cons (kept_declare kept value hereValue) kept.nil))
  | .union members, node, ok => by
    obtain ⟨nodes, _, here, last⟩ := Declaring.bind_eq_ok_iff.1 ok
    cases last
    exact kept.node trivial trivial (by simp [Node.kind]) rfl (fun _ ↦ id)
      (kept_declareList kept members here)
  | .discriminatedUnion discriminator variants, node, ok => by
    obtain ⟨nodes, _, here, later⟩ := Declaring.bind_eq_ok_iff.1 ok
    obtain ⟨_, _, lifted, last⟩ := Declaring.bind_eq_ok_iff.1 later
    obtain ⟨checked, rfl⟩ := Declaring.of_lift lifted
    cases last
    exact kept.node checked trivial (by simp [Node.kind]) rfl (fun _ ↦ id)
      (kept_declareEntries kept variants here)
  | .optional inner none, node, ok => by
    obtain ⟨child, _, here, last⟩ := Declaring.bind_eq_ok_iff.1 ok
    cases last
    exact kept.node trivial trivial (by simp [Node.kind]) rfl (fun _ ↦ id)
      (kept.cons (kept_declare kept inner here) kept.nil)
  | .optional inner (some default), node, ok => by
    obtain ⟨child, _, here, later⟩ := Declaring.bind_eq_ok_iff.1 ok
    obtain ⟨_, _, got, later⟩ := Declaring.bind_eq_ok_iff.1 later
    cases got
    obtain ⟨_, _, lifted, later⟩ := Declaring.bind_eq_ok_iff.1 later
    obtain ⟨optional, rfl⟩ := Declaring.of_lift lifted
    obtain ⟨decoded, decodes, rfl⟩ := optionalWithDefault_eq_ok optional
    obtain ⟨_, _, modified, last⟩ := Declaring.bind_eq_ok_iff.1 later
    cases modified
    cases last
    exact kept.default decodes (kept.cons (kept_declare kept inner here) kept.nil)
  | .transform inner target conversion, node, ok => by
    obtain ⟨child, _, here, last⟩ := Declaring.bind_eq_ok_iff.1 ok
    cases last
    exact kept.node trivial trivial (by simp [Node.kind]) rfl (fun _ ↦ id)
      (kept.cons (kept_declare kept inner here) kept.nil)

/-- What every step keeps holds of children that are declared one after the other. -/
theorem kept_declareList (kept : Declaring.Kept Q) {progress progress' : Progress} {place : Place}
    {i : Nat} : (blueprints : List Blueprint) → {nodes : List Node} →
    declareList place i blueprints progress = .ok (nodes, progress') →
    Q (place.From i) progress progress' nodes
  | [], nodes, ok => by
    cases ok
    exact kept.nil
  | blueprint :: rest, nodes, ok => by
    obtain ⟨node, _, here, later⟩ := Declaring.bind_eq_ok_iff.1 ok
    obtain ⟨nodes, _, tail, last⟩ := Declaring.bind_eq_ok_iff.1 later
    cases last
    exact kept.cons (kept_declare kept blueprint here) (kept_declareList kept rest tail)

/-- What every step keeps holds of named children that are declared one after the other. -/
theorem kept_declareEntries (kept : Declaring.Kept Q) {progress progress' : Progress}
    {place : Place} {i : Nat} : (blueprints : List (String × Blueprint)) →
    {nodes : List (String × Node)} →
    declareEntries place i blueprints progress = .ok (nodes, progress') →
    Q (place.From i) progress progress' (Entries.values nodes)
  | [], nodes, ok => by
    cases ok
    exact kept.nil
  | (name, blueprint) :: rest, nodes, ok => by
    obtain ⟨node, _, here, later⟩ := Declaring.bind_eq_ok_iff.1 ok
    obtain ⟨nodes, _, tail, last⟩ := Declaring.bind_eq_ok_iff.1 later
    cases last
    exact kept.cons (kept_declare kept blueprint here) (kept_declareEntries kept rest tail)

end

end Kept

/-- A declaration takes places at and below its own. -/
theorem declares (used : Place → Prop) {progress progress' : Progress} {place : Place}
    {blueprint : Blueprint} {node : Node}
    (ok : declare place blueprint progress = .ok (node, progress')) :
    Declares used (place <:+ ·) progress progress' [node] :=
  kept_declare
    { leaf := fun leaf _ formed noPlace ↦ .leaf leaf formed noPlace rfl
      lazy := fun _ _ ↦ .leaf rfl trivial rfl rfl
      definition := fun name ↦ .definition name
      nil := .nil
      cons := .cons
      node := fun formed _ _ at_ sub children ↦ .node formed at_ sub children
      default := fun {place progress progress' type _ decoded} _ child ↦ by
        have node : Declares used (place <:+ ·) progress progress'
            [.optional (some place) type (some decoded)] :=
          .node trivial rfl (fun _ ↦ id) child
        exact node.later rfl }
    blueprint ok

/-- The places of the definitions before the `i`th. -/
private def Earlier (i : Nat) (p : Place) : Prop :=
  ∃ j < i, [j] <:+ p

private theorem free_earlier (i : Nat) (p : Place) (inside : Earlier i p) : ¬[i] <:+ p := by
  intro here
  obtain ⟨j, lt, below⟩ := inside
  have same := Place.index_eq_of_suffix below here
  omega

private theorem stands_declareDefinitions (definitions : List (String × Blueprint)) {i : Nat}
    {progress progress' : Progress}
    (known : ∃ sites, progress.Stands sites (Earlier i))
    (ok : declareDefinitions i definitions progress = .ok ((), progress')) :
    ∃ sites, progress'.Stands sites (Earlier (i + definitions.length)) := by
  induction definitions generalizing i progress with
  | nil =>
    cases ok
    exact known
  | cons definition rest ih =>
    obtain ⟨name, blueprint⟩ := definition
    obtain ⟨sites, known⟩ := known
    obtain ⟨node, _, here, later⟩ := Declaring.bind_eq_ok_iff.1 ok
    obtain ⟨_, _, modified, later⟩ := Declaring.bind_eq_ok_iff.1 later
    cases modified
    have declared := declares (Earlier i) here
    obtain ⟨sites', same, stands⟩ := declared.stands (free_earlier i) sites known
    rw [List.length_cons, Nat.add_comm _ 1, ← Nat.add_assoc]
    refine ih ⟨sites', fun entry member ↦ ?_⟩ later
    rcases Entries.mem_insert member with rfl | old
    · refine Node.Stands.transfer (stands node List.mem_cons_self) (fun _ _ ↦ rfl) fun p inside ↦ ?_
      rcases inside with here | ⟨j, lt, below⟩
      · exact ⟨i, Nat.lt_succ_self i, here⟩
      · exact ⟨j, Nat.lt_succ_of_lt lt, below⟩
    · rw [declared.finished] at old
      refine Node.Stands.transfer (known entry old) (fun p inside ↦ ?_) fun p ⟨j, lt, below⟩ ↦ ?_
      · exact same p (free_earlier i p inside)
      · exact ⟨j, Nat.lt_succ_of_lt lt, below⟩

/-- All nodes of a declared schema are well-formed and stand at their places. -/
private theorem stands_toSchema {definitions : List (String × Blueprint)} {root : Blueprint}
    {schema : Schema} (ok : toSchema definitions root = .ok schema) :
    ∃ sites, schema.All (Node.Stands sites fun _ ↦ True) := by
  obtain ⟨⟨node, progress⟩, declared, last⟩ := Schemata.bind_eq_ok_iff.1 ok
  cases last
  obtain ⟨_, progress', first, rest⟩ := Declaring.bind_eq_ok_iff.1 declared
  obtain ⟨sites, known⟩ := stands_declareDefinitions definitions
    ⟨fun _ ↦ .null, fun _ none ↦ absurd none List.not_mem_nil⟩ first
  rw [Nat.zero_add] at known
  have free := free_earlier definitions.length
  have declared := declares (Earlier definitions.length) rest
  obtain ⟨sites', same, stands⟩ := declared.stands free sites known
  have null := Node.stands_null sites' fun _ ↦ True
  refine ⟨sites', Node.Stands.transfer (stands node List.mem_cons_self) (fun _ _ ↦ rfl)
    fun _ _ ↦ trivial, References.resolve_induction (fun entry member ↦ ?_) null⟩
  obtain ⟨reference, -, rfl⟩ := List.mem_map.1 member
  dsimp only
  split
  · exact null
  · rw [Progress.node]
    cases found : Entries.get? reference.2 progress.finished with
    | none => exact null
    | some node =>
      have entry := Entries.mem_of_get?_eq_some found
      rw [declared.finished] at entry
      exact Node.Stands.transfer (known _ entry)
        (fun p inside ↦ same p (free p inside)) fun _ _ ↦ trivial

/-- In a declared schema, names of fields are distinct and variants fit their tags. -/
theorem toSchema_formed {definitions : List (String × Blueprint)} {root : Blueprint}
    {schema : Schema} (ok : toSchema definitions root = .ok schema) : schema.All Node.Formed := by
  obtain ⟨sites, stands⟩ := stands_toSchema ok
  exact ⟨stands.root.imp fun _ ↦ Node.Stands.formed,
    fun r ↦ (stands.resolved r).imp fun _ ↦ Node.Stands.formed⟩

/-- In a declared schema, a place belongs to one node. -/
theorem toSchema_sited {definitions : List (String × Blueprint)} {root : Blueprint}
    {schema : Schema} (ok : toSchema definitions root = .ok schema) : schema.Sited := by
  obtain ⟨sites, stands⟩ := stands_toSchema ok
  have site : ∀ node, Node.Stands sites (fun _ ↦ True) node → node.StandsIn sites :=
    fun _ stands place at_ ↦ (stands.site place at_).1
  exact ⟨⟨sites, stands.root.imp site, fun r ↦ (stands.resolved r).imp site⟩,
    fun r ↦ (stands.resolved r).here.placed⟩

end Blueprint

end Schemata
