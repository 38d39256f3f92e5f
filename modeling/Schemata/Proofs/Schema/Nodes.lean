import Schemata.Proofs.Entries
import Schemata.Schema.Basic

/-!
# Nodes within a schema

A property of nodes is spread over a schema by `Node.All` and `Schema.All`: it then holds of the
root, of every node below it, and of every node that a reference can lead to. Induction goes down
the tree of a node (`Node.induction`), and what is decided of single nodes is decided of the tree by
going through them (`Node.nodes`). `Node.Formed` is what the constructors of structs and
discriminated unions see to.
-/

namespace Schemata

namespace Node

/-- The nodes directly below a node; a reference has none. -/
def children : Node → List Node
  | .array _ item _ => [item]
  | .tuple _ elements => elements
  | .struct _ fields _ => Entries.values fields
  | .record _ key value => [key, value]
  | .union _ members => members
  | .discriminatedUnion _ _ variants => Entries.values variants
  | .optional _ inner _ => [inner]
  | .transform _ inner _ _ => [inner]
  | _ => []

/-- The node with other children at another place; a node without children stays as it is. -/
def withChildren (place : Option Place) : Node → List Node → Node
  | .array _ _ c, [item] => .array place item c
  | .tuple _ _, elements => .tuple place elements
  | .struct _ fields extraKeys, nodes => .struct place ((Entries.keys fields).zip nodes) extraKeys
  | .record _ _ _, [key, value] => .record place key value
  | .union _ _, members => .union place members
  | .discriminatedUnion _ discriminator variants, nodes =>
    .discriminatedUnion place discriminator ((Entries.keys variants).zip nodes)
  | .optional _ _ default, [inner] => .optional place inner default
  | .transform _ _ target conversion, [inner] => .transform place inner target conversion
  | node, _ => node

theorem withChildren_children (node : Node) :
    node.withChildren node.place? node.children = node := by
  cases node with
  | struct | discriminatedUnion =>
    simp only [withChildren, children, place?, Entries.zip_keys_values]
  | _ => rfl

/-- Induction on a node: what holds of all children is given for them. -/
@[elab_as_elim]
theorem induction {motive : Node → Prop}
    (step : ∀ node : Node, (∀ child ∈ node.children, motive child) → motive node) (node : Node) :
    motive node :=
  @Node.rec motive (fun nodes ↦ ∀ node ∈ nodes, motive node)
    (fun entries ↦ ∀ node ∈ Entries.values entries, motive node) (fun entry ↦ motive entry.2)
    (fun _ ↦ step _ (by simp [children])) (fun _ ↦ step _ (by simp [children]))
    (fun _ ↦ step _ (by simp [children])) (step _ (by simp [children]))
    (step _ (by simp [children])) (step _ (by simp [children]))
    (fun _ ↦ step _ (by simp [children]))
    (fun _ _ _ item ↦ step _ (by simpa [children] using item))
    (fun _ _ elements ↦ step _ elements) (fun _ _ _ fields ↦ step _ fields)
    (fun _ _ _ key value ↦ step _ (by simpa [children] using ⟨key, value⟩))
    (fun _ _ members ↦ step _ members) (fun _ _ _ variants ↦ step _ variants)
    (fun _ _ _ inner ↦ step _ (by simpa [children] using inner))
    (fun _ _ _ _ inner ↦ step _ (by simpa [children] using inner))
    (fun _ _ ↦ step _ (by simp [children]))
    (by simp) (fun _ _ head tail ↦ List.forall_mem_cons.2 ⟨head, tail⟩)
    (by simp [Entries.values]) (fun _ _ head tail ↦ List.forall_mem_cons.2 ⟨head, tail⟩)
    (fun _ _ node ↦ node) node

/-- A property holds of a node and of all nodes below it. -/
inductive All (p : Node → Prop) : Node → Prop where
  /-- It holds here and of all children. -/
  | intro {node : Node} (here : p node) (below : ∀ child ∈ node.children, All p child) : All p node

namespace All

variable {p q : Node → Prop}

theorem here {node : Node} (h : node.All p) : p node := by
  cases h with
  | intro here _ => exact here

theorem child {node child : Node} (h : node.All p) (member : child ∈ node.children) :
    child.All p := by
  cases h with
  | intro _ below => exact below child member

theorem imp {node : Node} (h : node.All p) (step : ∀ node, p node → q node) : node.All q := by
  induction h with
  | intro here _ ih => exact .intro (step _ here) ih

theorem and {node : Node} (hp : node.All p) (hq : node.All q) :
    node.All fun node ↦ p node ∧ q node := by
  induction hp with
  | intro here _ ih =>
    exact .intro ⟨here, hq.here⟩ fun child member ↦ ih child member (hq.child member)

theorem item {place : Option Place} {item : Node} {c : ArrayConstraints}
    (h : (Node.array place item c).All p) : item.All p :=
  h.child (List.mem_singleton.2 rfl)

theorem element {place : Option Place} {elements : List Node}
    (h : (Node.tuple place elements).All p) {node : Node} (member : node ∈ elements) : node.All p :=
  h.child member

theorem field {place : Option Place} {fields : List (String × Node)} {extraKeys : ExtraKeys}
    (h : (Node.struct place fields extraKeys).All p) {name : String} {node : Node}
    (member : (name, node) ∈ fields) : node.All p :=
  h.child (List.mem_map.2 ⟨(name, node), member, rfl⟩)

theorem key {place : Option Place} {key value : Node} (h : (Node.record place key value).All p) :
    key.All p :=
  h.child (by simp [children])

theorem value {place : Option Place} {key value : Node} (h : (Node.record place key value).All p) :
    value.All p :=
  h.child (by simp [children])

theorem member {place : Option Place} {members : List Node} (h : (Node.union place members).All p)
    {node : Node} (member : node ∈ members) : node.All p :=
  h.child member

theorem variant {place : Option Place} {discriminator : String} {variants : List (String × Node)}
    (h : (Node.discriminatedUnion place discriminator variants).All p) {tag : String} {node : Node}
    (member : (tag, node) ∈ variants) : node.All p :=
  h.child (List.mem_map.2 ⟨(tag, node), member, rfl⟩)

end All

/-- A property of a whole tree, written out at its root. -/
theorem all_iff {p : Node → Prop} (node : Node) :
    node.All p ↔ p node ∧ ∀ child ∈ node.children, child.All p :=
  ⟨fun h ↦ ⟨h.here, fun _ ↦ h.child⟩, fun h ↦ .intro h.1 h.2⟩

mutual

/-- A node and all nodes below it. -/
def nodes : Node → List Node
  | node@(.array _ item _) => node :: item.nodes
  | node@(.tuple _ elements) => node :: nodesOfList elements
  | node@(.struct _ fields _) => node :: nodesOfFields fields
  | node@(.record _ key value) => node :: (key.nodes ++ value.nodes)
  | node@(.union _ members) => node :: nodesOfList members
  | node@(.discriminatedUnion _ _ variants) => node :: nodesOfFields variants
  | node@(.optional _ inner _) => node :: inner.nodes
  | node@(.transform _ inner _ _) => node :: inner.nodes
  | node => [node]

/-- `nodes` one after the other. -/
def nodesOfList : List Node → List Node
  | [] => []
  | node :: rest => node.nodes ++ nodesOfList rest

/-- `nodes` of named nodes. -/
def nodesOfFields : List (String × Node) → List Node
  | [] => []
  | (_, node) :: rest => node.nodes ++ nodesOfFields rest

end

theorem nodesOfList_eq (list : List Node) : nodesOfList list = list.flatMap nodes := by
  induction list with
  | nil => rfl
  | cons node rest ih => rw [nodesOfList, ih, List.flatMap_cons]

theorem nodesOfFields_eq (fields : List (String × Node)) :
    nodesOfFields fields = (Entries.values fields).flatMap nodes := by
  induction fields with
  | nil => rfl
  | cons field rest ih =>
    rw [nodesOfFields, ih]
    rfl

theorem nodes_eq (node : Node) : node.nodes = node :: node.children.flatMap nodes := by
  cases node <;> simp [nodes, children, nodesOfList_eq, nodesOfFields_eq]

/-- A property of a whole tree, as one of a list. -/
theorem all_iff_forall_mem {p : Node → Prop} (node : Node) :
    node.All p ↔ ∀ n ∈ node.nodes, p n := by
  induction node using Node.induction with
  | step node ih =>
    rw [all_iff, nodes_eq, List.forall_mem_cons]
    simp only [List.mem_flatMap, forall_exists_index, and_imp]
    refine and_congr_right fun _ ↦ ⟨fun h n child mem memN ↦ ?_, fun h child mem ↦ ?_⟩
    · exact (ih child mem).1 (h child mem) n memN
    · exact (ih child mem).2 fun n memN ↦ h n child mem memN

/-- Whether a property holds of a whole tree is decided node by node. -/
instance {p : Node → Prop} [DecidablePred p] (node : Node) : Decidable (node.All p) :=
  decidable_of_iff _ (all_iff_forall_mem node).symm

/-- No field name occurs twice, and the variants of a discriminated union fit their tags. -/
def Formed : Node → Prop
  | .struct _ fields _ => Entries.Distinct fields
  | .discriminatedUnion _ discriminator variants =>
    checkVariants discriminator [] variants = .ok ()
  | _ => True

/-- Field names are compared, and variants are checked. -/
instance : DecidablePred Formed
  | .struct _ fields _ => inferInstanceAs (Decidable (Entries.Distinct fields))
  | .discriminatedUnion _ discriminator variants =>
    match checked : checkVariants discriminator [] variants with
    | .ok () => .isTrue checked
    | .error _ => .isFalse fun formed ↦ nomatch checked.symm.trans formed
  | .string _ | .number _ | .integer _ | .boolean | .null | .symbol | .literal _ | .array _ _ _
  | .tuple _ _ | .record _ _ _ | .union _ _ | .optional _ _ _ | .transform _ _ _ _ | .lazy _ _ =>
    .isTrue trivial

/-- A node other than a transform: its values are related to its inputs by structure alone. -/
def NoTransform : Node → Prop
  | .transform _ _ _ _ => False
  | _ => True

instance : DecidablePred NoTransform := fun node ↦
  decidable_of_iff (node.kind ≠ .transform) (by cases node <;> simp [kind, NoTransform])

/-- A node other than an optional one with a default. -/
def NoDefault : Node → Prop
  | .optional _ _ (some _) => False
  | _ => True

/-- A node with a place is the one that stands there. -/
def StandsIn (sites : Place → Node) (node : Node) : Prop :=
  ∀ place, node.place? = some place → sites place = node

/-- The fields that must be present are those that are not optional. -/
theorem mem_requiredNames {fields : Entries Node} (distinct : Entries.Distinct fields)
    {name : String} {node : Node} (member : (name, node) ∈ fields) :
    name ∈ requiredNames fields ↔ node.isOptional = false := by
  rw [requiredNames, List.mem_map]
  constructor
  · rintro ⟨⟨_, other⟩, inFiltered, rfl⟩
    obtain ⟨inFields, required⟩ := List.mem_filter.1 inFiltered
    obtain rfl : other = node := Option.some.inj <|
      (Entries.get?_eq_some_of_mem distinct inFields).symm.trans
        (Entries.get?_eq_some_of_mem distinct member)
    simpa using required
  · exact fun required ↦ ⟨(name, node), List.mem_filter.2 ⟨member, by simp [required]⟩, rfl⟩

/-- Variants that pass their check hold the discriminator as a single literal with the tag as its
key, and no tag occurs twice. -/
theorem checkVariants_eq_ok {discriminator : String} {seen : List String}
    {variants : List (String × Node)} (ok : checkVariants discriminator seen variants = .ok ()) :
    (∀ tag variant, (tag, variant) ∈ variants → variantFault? discriminator tag variant = none)
      ∧ Entries.Distinct variants ∧ ∀ tag ∈ Entries.keys variants, tag ∉ seen := by
  induction variants generalizing seen with
  | nil => exact ⟨by simp, List.nodup_nil, by simp⟩
  | cons entry rest ih =>
    obtain ⟨tag, variant⟩ := entry
    rw [checkVariants] at ok
    split at ok
    · cases ok
    · next fits =>
      split at ok
      · cases ok
      · next fresh =>
        obtain ⟨faults, distinct, unseen⟩ := ih ok
        refine ⟨fun t v member ↦ ?_, List.nodup_cons.2 ⟨?_, distinct⟩, ?_⟩
        · rcases List.mem_cons.1 member with eq | tail
          · cases eq
            exact fits
          · exact faults t v tail
        · exact fun repeated ↦ unseen tag repeated (by simp)
        · intro t ht
          rcases List.mem_cons.1 ht with rfl | tail
          · simpa using fresh
          · exact fun h ↦ unseen t tail (List.mem_cons_of_mem _ h)

/-- A variant that fits its tag is a struct with the tag as its discriminator. -/
theorem variantFault?_eq_none {discriminator tag : String} {variant : Node}
    (fits : variantFault? discriminator tag variant = none) :
    ∃ place fields extraKeys type only, variant = .struct place fields extraKeys
      ∧ Entries.get? discriminator fields = some (.literal type) ∧ type.values = [only]
      ∧ only.toKey = tag := by
  unfold variantFault? at fits
  split at fits
  · next place fields extraKeys =>
    split at fits
    · cases fits
    · next type found =>
      split at fits
      · next only values =>
        split at fits
        · next key => exact ⟨place, fields, extraKeys, type, only, rfl, found, values, key⟩
        · cases fits
      · cases fits
    · cases fits
  · cases fits

end Node

namespace Place

/-- Places below different children of one place are different. -/
theorem index_eq_of_suffix {i j : Nat} {place below : Place} (hi : (i :: place) <:+ below)
    (hj : (j :: place) <:+ below) : i = j := by
  have suffix := List.suffix_of_suffix_length_le hi hj (Nat.le_of_eq rfl)
  have same := suffix.eq_of_length rfl
  exact (List.cons.inj same).1

/-- The places at and below the children of a place from the `i`th on. -/
def From (place : Place) (i : Nat) (p : Place) : Prop :=
  ∃ j ≥ i, (j :: place) <:+ p

theorem From.below {place p : Place} {i : Nat} (inside : place.From i p) : place <:+ p := by
  obtain ⟨j, -, below⟩ := inside
  exact (List.suffix_cons j place).trans below

theorem From.head {place p : Place} {i : Nat} (inside : (i :: place) <:+ p) : place.From i p :=
  ⟨i, Nat.le_refl i, inside⟩

theorem From.tail {place p : Place} {i : Nat} (inside : place.From (i + 1) p) : place.From i p := by
  obtain ⟨j, le, below⟩ := inside
  exact ⟨j, Nat.le_of_succ_le le, below⟩

/-- The regions of a child and of those after it are apart. -/
theorem From.apart {place p : Place} {i : Nat} (here : (i :: place) <:+ p) :
    ¬place.From (i + 1) p := by
  rintro ⟨j, le, later⟩
  have same := index_eq_of_suffix here later
  omega

/-- A place is not below its own children. -/
theorem From.ne {place p : Place} {i : Nat} (inside : place.From i p) : p ≠ place := by
  rintro rfl
  obtain ⟨j, -, below⟩ := inside
  exact absurd below.length_le (by simp)

end Place

theorem References.resolve_induction {references : References} {p : Node → Prop}
    (entries : ∀ entry ∈ references, p entry.2) (absent : p .null) (reference : Place) :
    p (references.resolve reference) := by
  rw [References.resolve]
  cases found : references.lookup reference with
  | none => exact absent
  | some node =>
    obtain ⟨_, _, rfl, -⟩ := List.lookup_eq_some_iff.1 found
    exact entries (reference, node) (by simp)

/-- A property holds of every node of a schema: of those of its tree, and of those that a reference
stands for. -/
structure Schema.All (p : Node → Prop) (schema : Schema) : Prop where
  /-- It holds throughout the tree. -/
  root : schema.root.All p
  /-- It holds throughout whatever a reference stands for. -/
  resolved : ∀ reference, (schema.references.resolve reference).All p

/-- What holds throughout the tree and throughout all entries of the table holds of a schema, if it
holds of the null that a reference without an entry stands for. -/
theorem Schema.All.of_published {p : Node → Prop} {schema : Schema} (null : p .null)
    (root : schema.root.All p) (published : ∀ entry ∈ schema.references, entry.2.All p) :
    schema.All p :=
  ⟨root, References.resolve_induction published (.intro null (by simp [Node.children]))⟩

/-- Every node with children that a reference stands for has a place. -/
def References.Placed (references : References) : Prop :=
  ∀ r, (references.resolve r).children = [] ∨ (references.resolve r).place?.isSome

/-- Nodes with one place are the same node, and every node with children that a reference stands for
has a place. -/
structure Schema.Sited (schema : Schema) : Prop where
  /-- One node stands at each place. -/
  unique : ∃ sites, schema.All (Node.StandsIn sites)
  /-- What references stand for has a place. -/
  placed : schema.references.Placed

end Schemata
