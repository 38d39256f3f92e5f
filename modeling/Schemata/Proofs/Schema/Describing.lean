import Mathlib.Logic.Relation
import Schemata.Proofs.Ast
import Schemata.Proofs.Schema.Nodes
import Schemata.Schema.Describe

/-!
# Descriptions exist

A schema has a description if no chain of references alone comes back to where it started
(`References.Guarded`). Two things bound the references that are nested in one another: between two
nodes that join the stack a chain leads to each reference once at most (`References.Ends`), and each
node that joins the stack was not on it (`References.fresh`).

`describeNode_eq` gives the description of a node from those of its children, for all kinds alike.
-/

namespace Schemata

/-- The description of a node from those of its children. -/
def Node.describedBy (references : References) : Node → List Ast → Ast
  | .string type, _ => .string type.constraints
  | .number c, _ => .number c
  | .integer c, _ => .integer c
  | .boolean, _ => .boolean
  | .symbol, _ => .symbol
  | .literal type, _ => .literal type.values
  | .array _ _ c, [item] => .array item c
  | .tuple _ _, elements => .tuple elements
  | .struct _ fields extraKeys, asts =>
    .struct ((Entries.keys fields).zip asts) (requiredNames fields) extraKeys
  | .record _ _ _, [key, value] => .record key value
  | .union _ _, members => .union members
  | .discriminatedUnion _ discriminator variants, asts =>
    .discriminatedUnion discriminator ((Entries.keys variants).zip asts)
  | .optional _ inner default, [described] =>
    .optional described (default.map (encodeAt references defaultMaxDepth inner))
  | .transform _ _ target _, [described] => .transform described target
  | _, _ => .null

variable {references : References}

/-- The description has the children it was made from, and the kind of its node. -/
theorem Node.children_describedBy {node : Node} (notLazy : node.kind ≠ .lazy) {asts : List Ast}
    (length : node.children.length = asts.length) :
    (node.describedBy references asts).children = asts
      ∧ (node.describedBy references asts).kind = node.kind := by
  cases node with
  | lazy => exact absurd rfl notLazy
  | array | optional | transform =>
    obtain ⟨ast, rfl⟩ := List.length_eq_one_iff.1 length.symm
    exact ⟨rfl, rfl⟩
  | record =>
    obtain ⟨key, value, rfl⟩ := List.length_eq_two.1 length.symm
    exact ⟨rfl, rfl⟩
  | tuple | union => exact ⟨rfl, rfl⟩
  | struct _ fields =>
    refine ⟨Entries.values_zip (by simpa [Node.children, Entries.values] using length.symm), rfl⟩
  | discriminatedUnion _ _ variants =>
    refine ⟨Entries.values_zip (by simpa [Node.children, Entries.values] using length.symm), rfl⟩
  | _ =>
    obtain rfl := List.length_eq_zero_iff.1 length.symm
    exact ⟨rfl, rfl⟩

section Nodes

variable {inline : Describer} {stack : List (Option Place)}

theorem describeList_eq_some_iff {nodes : List Node} {asts : List Ast} :
    describeList references inline stack nodes = some asts ↔
      List.Forall₂ (fun node ast ↦ describeNode references inline stack node = some ast)
        nodes asts := by
  induction nodes generalizing asts with
  | nil => simp [describeList, eq_comm]
  | cons node rest ih =>
    rw [describeList, List.forall₂_cons_left_iff]
    simp only [bind, Option.bind_eq_some_iff, pure, Option.some.injEq, ih]
    constructor
    · rintro ⟨ast, here, tail, later, rfl⟩
      exact ⟨ast, tail, here, later, rfl⟩
    · rintro ⟨ast, tail, here, later, rfl⟩
      exact ⟨ast, here, tail, later, rfl⟩

private theorem describeEntries_eq (entries : List (String × Node)) :
    describeEntries references inline stack entries =
      (describeList references inline stack (Entries.values entries)).map
        ((Entries.keys entries).zip ·) := by
  induction entries with
  | nil => rfl
  | cons entry rest ih =>
    obtain ⟨name, node⟩ := entry
    rw [describeEntries, ih]
    simp only [Entries.values, Entries.keys, List.map_cons, describeList]
    cases describeNode references inline stack node with
    | none => rfl
    | some ast =>
      cases describeList references inline stack (rest.map Prod.snd) with
      | none => rfl
      | some asts => rfl

/-- A node is described by describing its children below it. -/
theorem describeNode_eq {node : Node} (notLazy : node.kind ≠ .lazy) :
    describeNode references inline stack node =
      (describeList references inline (node.place? :: stack) node.children).map
        (node.describedBy references) := by
  cases node with
  | lazy => exact absurd rfl notLazy
  | string | number | integer | boolean | null | symbol | literal => rfl
  | array place item c | optional place item c | transform place item =>
    simp only [describeNode, Node.children, Node.place?, describeList]
    cases describeNode references inline (place :: stack) item <;> rfl
  | record place key value =>
    simp only [describeNode, Node.children, Node.place?, describeList]
    cases describeNode references inline (place :: stack) key with
    | none => rfl
    | some ast =>
      cases describeNode references inline (place :: stack) value <;> rfl
  | tuple place nodes | union place nodes =>
    simp only [describeNode, Node.children, Node.place?]
    cases describeList references inline (place :: stack) nodes <;> rfl
  | struct place entries | discriminatedUnion place _ entries =>
    simp only [describeNode, Node.children, Node.place?, describeEntries_eq]
    cases describeList references inline (place :: stack) (Entries.values entries) <;> rfl

/-- A node without references below it has a description. -/
theorem exists_describeNode {node : Node} (noLazy : node.All fun node ↦ node.kind ≠ .lazy) :
    ∃ ast, describeNode references inline stack node = some ast := by
  induction node using Node.induction generalizing stack with
  | step node ih =>
    obtain ⟨asts, each⟩ := exists_forall₂ fun child member ↦
      @ih child member (node.place? :: stack) (noLazy.child member)
    exact ⟨_, by rw [describeNode_eq noLazy.here, describeList_eq_some_iff.2 each, Option.map_some]⟩

end Nodes

/-- What is described in place of a reference, with so many hops to go. -/
def inlineAt (references : References) : (hops : Nat) → Describer
  | 0 => fun _ _ ↦ none
  | hops + 1 => describeAt references hops

theorem describeAt_eq (references : References) (hops : Nat) (stack : List (Option Place))
    (node : Node) :
    describeAt references hops stack node =
      describeNode references (inlineAt references hops) stack node := by
  cases hops <;> rfl

theorem distanceTo?_eq_none_iff {stack : List (Option Place)} {place : Place} :
    distanceTo? stack (some place) = none ↔ some place ∉ stack := by
  rw [distanceTo?, Option.map_eq_none_iff, List.findIdx?_eq_none_iff]
  constructor
  · intro all member
    simpa using all (some place) member
  · intro absent place' member
    rw [beq_eq_false_iff_ne]
    rintro rfl
    exact absent member

/-! ### Chains of references -/

namespace References

/-- A reference stands for another. -/
def Leads (references : References) (r r' : Place) : Prop :=
  ∃ name, references.resolve r = .lazy name r'

/-- No chain of references alone comes back to where it started. -/
def Guarded (references : References) : Prop :=
  ∀ r, ¬Relation.TransGen references.Leads r r

/-- Within so many look-ups, a reference leads to a node that is none. -/
inductive Ends (references : References) : Nat → Place → Prop where
  /-- The reference stands for another kind of node. -/
  | stop {n : Nat} {r : Place} (notLazy : (references.resolve r).kind ≠ .lazy) :
    Ends references (n + 1) r
  /-- The reference stands for one that ends. -/
  | step {n : Nat} {r r' : Place} {name : String} (leads : references.resolve r = .lazy name r')
    (ends : Ends references n r') : Ends references (n + 1) r

theorem exists_of_resolve_ne_null {r : Place} (entry : references.resolve r ≠ .null) :
    ∃ before after, references = before ++ (r, references.resolve r) :: after := by
  rw [resolve] at entry ⊢
  cases found : references.lookup r with
  | none => simp [found] at entry
  | some node =>
    obtain ⟨before, after, eq, -⟩ := List.lookup_eq_some_iff.1 found
    exact ⟨before, after, eq⟩

theorem Leads.mem {r r' : Place} (leads : references.Leads r r') :
    r ∈ references.map Prod.fst := by
  obtain ⟨name, eq⟩ := leads
  have entry : references.resolve r ≠ .null := by simp [eq]
  obtain ⟨before, after, split⟩ := exists_of_resolve_ne_null entry
  rw [split]
  simp

/-- A chain that stays within a list of references, and never returns, ends within its length. -/
private theorem Guarded.ends_within (guarded : references.Guarded) (left : List Place) (r : Place)
    (within : ∀ s s', Relation.ReflTransGen references.Leads r s → references.Leads s s' →
      s ∈ left) : references.Ends (left.length + 1) r := by
  induction length : left.length generalizing left r with
  | zero =>
    rw [List.length_eq_zero_iff] at length
    refine .stop fun isLazy ↦ ?_
    cases eq : references.resolve r with
    | lazy name r' => simpa [length] using within r r' .refl ⟨name, eq⟩
    | _ => simp [eq, Node.kind] at isLazy
  | succ n ih =>
    by_cases isLazy : (references.resolve r).kind = .lazy
    · cases eq : references.resolve r with
      | lazy name r' =>
        have leads : references.Leads r r' := ⟨name, eq⟩
        have member : r ∈ left := within r r' .refl leads
        refine .step eq (ih (left.erase r) r' (fun s s' reach next ↦ ?_) ?_)
        · have other : s ≠ r := by
            rintro rfl
            exact guarded s (.head' leads reach)
          exact (List.mem_erase_of_ne other).2 (within s s' (.head leads reach) next)
        · rw [List.length_erase_of_mem member, length, Nat.add_sub_cancel]
      | _ => simp [eq, Node.kind] at isLazy
    · exact .stop isLazy

/-- Where no chain comes back, each leads to every reference once at most. -/
theorem Guarded.ends (guarded : references.Guarded) (r : Place) :
    references.Ends (references.length + 1) r := by
  have within := guarded.ends_within (references.map Prod.fst) r fun s s' _ leads ↦ leads.mem
  rwa [List.length_map] at within

/-- How many references stand for nodes that are not on the stack. -/
def fresh (references : References) (stack : List (Option Place)) : Nat :=
  references.countP fun entry ↦
    entry.2.place?.isSome && !stack.contains entry.2.place?

theorem fresh_cons_le (references : References) (place? : Option Place)
    (stack : List (Option Place)) :
    references.fresh (place? :: stack) ≤ references.fresh stack := by
  refine List.countP_mono_left fun entry _ counted ↦ ?_
  simp only [List.contains_cons, Bool.not_or, Bool.and_eq_true] at counted ⊢
  exact ⟨counted.1, counted.2.2⟩

/-- A node that a reference stands for is not fresh any more once it has joined the stack. -/
theorem fresh_cons_lt {r place : Place} {stack : List (Option Place)}
    (placed : (references.resolve r).place? = some place) (absent : some place ∉ stack) :
    references.fresh (some place :: stack) < references.fresh stack := by
  have entry : references.resolve r ≠ .null := fun null ↦ by simp [null, Node.place?] at placed
  obtain ⟨before, after, split⟩ := exists_of_resolve_ne_null entry
  generalize references.resolve r = node at placed split
  subst split
  have atBefore := fresh_cons_le before (some place) stack
  have atAfter := fresh_cons_le after (some place) stack
  simp only [fresh, List.countP_append, List.countP_cons, placed] at atBefore atAfter ⊢
  have counted : (Option.isSome (some place) && !stack.contains (some place)) = true := by
    simpa using absent
  have gone :
      (Option.isSome (some place) && !(some place :: stack).contains (some place)) = false := by
    simp
  rw [counted, gone, if_pos rfl, if_neg Bool.false_ne_true]
  omega

end References

/-! ### Enough hops -/

section Hops

variable {stack : List (Option Place)} {hops : Nat}

/-- A node is described where all references below it are. -/
private theorem describeNode_isSome {inline : Describer} {f : Nat}
    (described : ∀ stack name r, references.fresh stack ≤ f →
      (describeNode references inline stack (.lazy name r)).isSome)
    (node : Node) (few : references.fresh stack ≤ f) :
    (describeNode references inline stack node).isSome := by
  induction node using Node.induction generalizing stack with
  | step node ih =>
    by_cases notLazy : node.kind = .lazy
    · cases node with
      | lazy name r => exact described stack name r few
      | _ => cases notLazy
    · rw [describeNode_eq notLazy, Option.isSome_map]
      have fewer := Nat.le_trans (references.fresh_cons_le node.place? stack) few
      obtain ⟨asts, each⟩ := exists_forall₂ fun child member ↦
        Option.isSome_iff_exists.1 (ih child member fewer)
      rw [describeList_eq_some_iff.2 each]
      rfl

/-- A chain takes its length, and the node that it ends in leaves fewer fresh ones below it. -/
private theorem describeAt_lazy_isSome (placed : references.Placed) {f : Nat}
    (below : ∀ stack hops node, references.fresh stack < f → (references.length + 1) * f ≤ hops →
      (describeAt references hops stack node).isSome)
    {c : Nat} {r : Place} (ends : references.Ends c r) (few : references.fresh stack ≤ f)
    (enough : c + (references.length + 1) * f ≤ hops) (name : String) :
    (describeAt references hops stack (.lazy name r)).isSome := by
  induction ends generalizing hops name with
  | @step n r r' name' leads _ ih =>
    obtain ⟨hops, rfl⟩ : ∃ h, hops = h + 1 := ⟨hops - 1, by omega⟩
    rw [describeAt_eq, describeNode, leads]
    exact ih (by omega) name'
  | @stop n r notLazy =>
    obtain ⟨hops, rfl⟩ : ∃ h, hops = h + 1 := ⟨hops - 1, by omega⟩
    rw [describeAt_eq, describeNode]
    cases distance : distanceTo? stack (references.resolve r).place? with
    | some d => rfl
    | none =>
      show (describeAt references hops stack (references.resolve r)).isSome
      rw [describeAt_eq, describeNode_eq notLazy, Option.isSome_map]
      rcases placed r with leaf | node
      · rw [leaf]
        rfl
      · obtain ⟨place, hasPlace⟩ := Option.isSome_iff_exists.1 node
        rw [hasPlace, distanceTo?_eq_none_iff] at distance
        have fewer := References.fresh_cons_lt hasPlace distance
        have each : ∀ child ∈ (references.resolve r).children,
            ∃ ast, describeNode references (inlineAt references hops) (some place :: stack)
              child = some ast := by
          intro child _
          rw [← Option.isSome_iff_exists, ← describeAt_eq]
          exact below _ hops child (Nat.lt_of_lt_of_le fewer few) (by omega)
        obtain ⟨asts, described⟩ := exists_forall₂ each
        rw [hasPlace, describeList_eq_some_iff.2 described]
        rfl

/-- With hops for as many chains as there are fresh nodes, and one more, all nodes are described. -/
theorem describeAt_isSome (guarded : references.Guarded) (placed : references.Placed) {f : Nat}
    (few : references.fresh stack < f) (enough : (references.length + 1) * f ≤ hops) (node : Node) :
    (describeAt references hops stack node).isSome := by
  induction f generalizing stack hops node with
  | zero => exact absurd few (Nat.not_lt_zero _)
  | succ f ih =>
    rw [Nat.mul_succ, Nat.add_comm] at enough
    rw [describeAt_eq]
    refine describeNode_isSome (fun stack name r few ↦ ?_) node (Nat.le_of_lt_succ few)
    rw [← describeAt_eq]
    exact describeAt_lazy_isSome placed (fun _ _ node few enough ↦ ih few enough node)
      (guarded.ends r) few enough name

end Hops

/-- A schema has a description unless references alone form a cycle. -/
theorem Schema.exists_toAst? {schema : Schema} (guarded : schema.references.Guarded)
    (placed : schema.references.Placed) : ∃ ast, schema.toAst? = some ast := by
  rw [← Option.isSome_iff_exists]
  have few : schema.references.fresh [] < schema.references.length + 1 :=
    Nat.lt_succ_of_le List.countP_le_length
  exact describeAt_isSome guarded placed few (Nat.le_refl _) schema.root

end Schemata
