import Schemata.Proofs.Schema.Declaring
import Schemata.Proofs.Schema.Depth
import Schemata.Proofs.Schema.Rebuilding

/-!
# Rebuilt schemas decode alike

A schema that is rebuilt from its own description decodes as the original does, where the original
does not run out of levels (`decode_ofAst_toAst?`). The two have different cycles: where the
original goes through a reference, the rebuilt schema either is at what it stands for already, one
level less deep, or goes back to the enclosing node by a reference of its own. `Rebuilds.agrees`
follows both decoders side by side; its invariant is that every node on the stack has been rebuilt
at its place (`Tied`).
-/

namespace Schemata

/-- No field of a struct is a reference that leads to an optional node, through references alone. -/
def Node.FieldsShown (references : References) : Node → Prop
  | .struct _ fields _ =>
    ∀ name r, .lazy name r ∈ Entries.values fields →
      ∀ r', Relation.ReflTransGen references.Leads r r' →
        (references.resolve r').isOptional = false
  | _ => True

/-- What stands at the place of each node on the stack is built from this node. -/
def Tied (references references' : References) : Around → Prop
  | [] => True
  | (node, place) :: around =>
    Rebuilds references references' around place node (references'.resolve place)
      ∧ Tied references references' around

section Rebuilds

variable {references references' : References} {around : Around} {place : Place}
  {node node' : Node}

/-- Below a node on the stack, the stack is that of the node. -/
theorem Tied.drop (tied : Tied references references' around) {k : Nat}
    (onStack : around[k]? = some (node, place)) :
    Rebuilds references references' (around.drop (k + 1)) place node (references'.resolve place)
      ∧ Tied references references' (around.drop (k + 1)) := by
  induction around generalizing k with
  | nil => cases onStack
  | cons entry around ih =>
    obtain ⟨top, place'⟩ := entry
    cases k with
    | zero =>
      cases onStack
      exact tied
    | succ k => exact ih tied.2 onStack

theorem Node.absent?_withChildren (node : Node) (place? : Option Place) (nodes : List Node) :
    (node.withChildren place? nodes).absent? = node.absent? := by
  unfold withChildren
  split <;> rfl

/-- A field may be absent if the one it is rebuilt from may. -/
theorem Rebuilds.absent? (rebuilds : Rebuilds references references' around place node node')
    (shown : ∀ name r, node = .lazy name r → ∀ r', Relation.ReflTransGen references.Leads r r' →
      (references.resolve r').isOptional = false) :
    node.absent? = node'.absent? := by
  induction rebuilds with
  | node => rw [Node.absent?_withChildren]
  | back => rfl
  | @inlined _ _ r name node' target ih =>
    have present : (references.resolve r).absent? = none := by
      have notOptional := shown name r rfl r .refl
      cases eq : references.resolve r with
      | optional => simp [eq, Node.isOptional] at notOptional
      | _ => rfl
    rw [← ih fun name' r' eq r'' leads ↦ shown name r rfl r'' (.head ⟨name', eq⟩ leads), present]
    rfl

variable {limit : Nat}

/-- What is built from a node decodes as the node does. The induction is on the levels and, within
one level, on how the node is rebuilt: only a reference back to the stack leaves the tree, and it
takes a level. -/
theorem Rebuilds.agrees (shown : ∀ r, (references.resolve r).All (Node.FieldsShown references))
    (known : ∀ place node, (place, node) ∈ references' → references'.resolve place = node)
    (rebuilds : Rebuilds references references' around place node node')
    (tied : Tied references references' around) (plain : node.All (Node.FieldsShown references))
    {levels levels' : Nat} (enough : levels ≤ levels') :
    AgreesAt references references' limit limit levels levels' node node' := by
  induction levels using Nat.strongRecOn generalizing levels' around place node node' with
  | ind levels deeper =>
    induction rebuilds with
    | @node around place node nodes notLazy length published below ih =>
      have tied' : Tied references references' ((node, place) :: around) := by
        refine ⟨?_, tied⟩
        rw [known _ _ published]
        exact .node notLazy length published below
      have child (i : Nat) (h : i < node.children.length) :
          node.children[i].All (Node.FieldsShown references) :=
        plain.child (List.getElem_mem h)
      refine decodeAt_withChildren notLazy enough (fun l l' eq eq' ↦ ?_) ?_ (fun isStruct ↦ ?_) _
      · exact List.forall₂_iff_get.2 ⟨length, fun i h h' ↦
          deeper l (by omega) (below i h h') tied' (child i h) (by omega)⟩
      · exact List.forall₂_iff_get.2 ⟨length, fun i h h' ↦ ih i h h' tied' (child i h)⟩
      · refine List.forall₂_iff_get.2 ⟨length, fun i h h' ↦ (below i h h').absent? ?_⟩
        intro name r eq
        cases node with
        | struct => exact plain.here name r (eq ▸ List.getElem_mem h)
        | _ => cases isStruct
    | @inlined around place r name node' target ih =>
      intro value safe
      cases levels with
      | zero => cases safe
      | succ l =>
        exact deeper l (Nat.lt_succ_self l) target tied (shown r) (by omega) value safe
    | @back around place r place' name k onStack =>
      refine decodeAt_lazy_congr enough (fun l l' eq eq' ↦ ?_) name name
      obtain ⟨target, tied'⟩ := tied.drop onStack
      exact deeper l (by omega) target tied' (shown r) (by omega)

end Rebuilds

/-- A schema without transforms and defaults has a description, a schema is rebuilt from it, and
decodes every value as the original does where the original does not run out of levels: to the same
value or with the same error. That nodes are formed and stand at their places is no condition on
what is declared (`Blueprint.toSchema_formed`, `Blueprint.toSchema_sited`). -/
theorem Schema.decode_ofAst_toAst? {schema : Schema} (formed : schema.All Node.Formed)
    (noTransform : schema.All Node.NoTransform) (noDefault : schema.All Node.NoDefault)
    (sited : schema.Sited) (guarded : schema.references.Guarded)
    (shown : schema.All (Node.FieldsShown schema.references)) :
    ∃ ast rebuilt, schema.toAst? = some ast ∧ Schema.ofAst ast = .ok rebuilt
      ∧ ∀ value maxDepth, schema.trips value maxDepth = false →
        rebuilt.decode value maxDepth = schema.decode value maxDepth := by
  obtain ⟨ast, described⟩ := exists_toAst? guarded sited.placed
  obtain ⟨rebuilt, built, rebuilds, known⟩ :=
    exists_ofAst formed noTransform noDefault sited described
  refine ⟨ast, rebuilt, described, built, fun value maxDepth safe ↦ ?_⟩
  exact rebuilds.agrees shown.resolved known trivial shown.root (Nat.le_refl maxDepth) value safe

/-- The owner of an account, who may have another. -/
def Node.owner : Node :=
  .struct (some [0, 1, 0])
    [("id", .integer {}),
      ("account", .optional (some [1, 0, 1, 0]) (.lazy "account" [0, 1, 0, 1, 0]) none)] .reject

/-- An account: a name, and perhaps an owner. -/
def Node.account : Node :=
  .struct (some [0]) [("name", .string .plain), ("owner", .optional (some [1, 0]) .owner none)]
    .reject

/-- An account, by way of an alias. -/
def Schema.account : Schema where
  root := .lazy "alias" [2]
  references := [([2], .lazy "account" [1]), ([1], .account), ([0, 1, 0, 1, 0], .account)]

/-- An account whose owner has another. -/
def Value.account : Value :=
  .object [("name", .string "a"), ("owner", .object [("id", .number (.integer 1 (by decide))),
    ("account", .object [("name", .string "b")])])]

private theorem declare_account :
    Blueprint.toSchema
      [("account", .struct
        [("name", .string {}),
          ("owner", .optional (.struct
            [("id", .integer {}), ("account", .optional (.lazy "account" "account") none)]
            .reject) none)]
        .reject),
        ("alias", .lazy "account" "account")]
      (.lazy "alias" "alias") = .ok Schema.account :=
  rfl

private theorem all_account {p : Node → Prop}
    (leaf : p (.string .plain) ∧ p (.integer {}) ∧ p .null) (edge : ∀ name r, p (.lazy name r))
    (optional : ∀ place inner, p (.optional place inner none))
    (struct : p .owner ∧ p .account) : Schema.account.All p := by
  have terminal {node : Node} (h : p node) (noChild : node.children = []) : node.All p :=
    .intro h (by simp [noChild])
  have owner : Node.owner.All p := by
    refine .intro struct.1 ?_
    simp only [Node.owner, Node.children, Entries.values, List.map_cons, List.map_nil,
      List.forall_mem_cons]
    exact ⟨terminal leaf.2.1 rfl, .intro (optional _ _) (by
      simpa [Node.children] using terminal (edge _ _) rfl), by simp⟩
  have account : Node.account.All p := by
    refine .intro struct.2 ?_
    simp only [Node.account, Node.children, Entries.values, List.map_cons, List.map_nil,
      List.forall_mem_cons]
    exact ⟨terminal leaf.1 rfl, .intro (optional _ _) (by simpa [Node.children] using owner),
      by simp⟩
  refine ⟨terminal (edge _ _) rfl, References.resolve_induction ?_ (terminal leaf.2.2 rfl)⟩
  simp only [Schema.account, List.forall_mem_cons]
  exact ⟨terminal (edge _ _) rfl, account, account, by simp⟩

private theorem eq_of_leads {r r' : Place} (leads : Schema.account.references.Leads r r') :
    r = [2] ∧ r' = [1] := by
  obtain ⟨name, eq⟩ := leads
  simp only [Schema.account, References.resolve, List.lookup_cons, List.lookup_nil] at eq
  split at eq
  · next isAlias =>
    cases eq
    exact ⟨beq_iff_eq.1 isAlias, rfl⟩
  · split at eq
    · cases eq
    · split at eq <;> cases eq

/-- An account with an owner decodes through the rebuilt schema as through the original, although
only the latter looks up the alias. -/
theorem Schema.decode_ofAst_toAst?_account :
    Schema.account.trips Value.account 6 = false
      ∧ ∃ ast rebuilt, Schema.account.toAst? = some ast ∧ Schema.ofAst ast = .ok rebuilt
        ∧ rebuilt.decode Value.account 6 = Schema.account.decode Value.account 6 := by
  have formed := Blueprint.toSchema_formed declare_account
  have sited := Blueprint.toSchema_sited declare_account
  have noTransform : Schema.account.All Node.NoTransform :=
    all_account ⟨trivial, trivial, trivial⟩ (fun _ _ ↦ trivial) (fun _ _ ↦ trivial)
      ⟨trivial, trivial⟩
  have noDefault : Schema.account.All Node.NoDefault :=
    all_account ⟨trivial, trivial, trivial⟩ (fun _ _ ↦ trivial) (fun _ _ ↦ trivial)
      ⟨trivial, trivial⟩
  have shown : Schema.account.All (Node.FieldsShown Schema.account.references) :=
    all_account ⟨trivial, trivial, trivial⟩ (fun _ _ ↦ trivial) (fun _ _ ↦ trivial)
      ⟨fun _ _ declared ↦ by simp [Entries.values] at declared,
        fun _ _ declared ↦ by simp [Entries.values] at declared⟩
  have guarded : Schema.account.references.Guarded := by
    intro r cycle
    obtain ⟨r', first, rest⟩ := Relation.TransGen.head'_iff.1 cycle
    obtain ⟨rfl, rfl⟩ := eq_of_leads first
    rcases rest.cases_head with same | ⟨_, next, -⟩
    · cases same
    · cases (eq_of_leads next).1
  have safe : Schema.account.trips Value.account 6 = false := by rfl
  obtain ⟨ast, rebuilt, described, built, same⟩ :=
    Schema.decode_ofAst_toAst? formed noTransform noDefault sited guarded shown
  exact ⟨safe, ast, rebuilt, described, built, same Value.account 6 safe⟩

end Schemata
