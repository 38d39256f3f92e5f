import Schemata.Proofs.Schema.Building
import Schemata.Schema.Construction

/-!
# The steps of the builder come to the same

Constructing the schema of a description step by step yields the root that `Schema.ofAst` yields, or
its error, and writes its references into the slots (`Schema.follows_construct`). On the way no
reference is looked up while its slot is empty: a default is decoded in the middle only where its
type refers nowhere, and at the end every slot is written.

One step of the construction beside one of the building keeps `Construction.Extends`: what is
published is what is written, what is deferred is what is put off, the counter tells whether there
was a stub, and nothing is looked up early.
-/

namespace Schemata

/-! ### Two computations side by side -/

/-- A construction fails as a computation does, or both succeed with related results. -/
def Follows {α β : Type} (related : α → β → Construction → Prop) :
    Except SchemaError α → Except SchemaError (β × Construction) → Prop
  | .ok a, .ok (b, construction) => related a b construction
  | .error error, .error error' => error = error'
  | _, _ => False

namespace Follows

variable {α β γ δ : Type} {related : α → β → Construction → Prop}
  {related' : γ → δ → Construction → Prop} {result : Except SchemaError α}
  {constructed : Except SchemaError (β × Construction)}

theorem ok {a : α} (follows : Follows related (.ok a) constructed) :
    ∃ b construction, constructed = .ok (b, construction) ∧ related a b construction :=
  match constructed, follows with
  | .ok (b, construction), holds => ⟨b, construction, rfl, holds⟩

theorem error {error : SchemaError} (follows : Follows related (.error error) constructed) :
    constructed = .error error :=
  match constructed, follows with
  | .error _, same => congrArg Except.error (Eq.symm same)

/-- A construction follows a computation step by step. -/
theorem bind {step : Constructing β} {construction : Construction}
    {next : α → Except SchemaError γ} {next' : β → Constructing δ}
    (follows : Follows related result (step construction))
    (later : ∀ a b construction, result = .ok a → related a b construction →
      Follows related' (next a) (next' b construction)) :
    Follows related' (result >>= next) ((step >>= next') construction) := by
  show Follows related' _ (step construction >>= fun r ↦ next' r.1 r.2)
  cases result with
  | ok a =>
    obtain ⟨b, construction, run, holds⟩ := follows.ok
    rw [run]
    exact later a b construction rfl holds
  | error e =>
    rw [follows.error]
    exact rfl

end Follows

/-! ### Children first -/

section Steps

variable (enclosing : List (Kind × Place)) (slot : Place)

/-- The step that makes the node of a description around the nodes of its children. -/
def Ast.assembling (before : Nat) (nodes : List Node) (ast : Ast) : Constructing Node :=
  match ast with
  | .optional _ (some default) => Constructing.withDefault before slot (nodes.getD 0 .null) default
  | .lazy _ _ _ => do
    let node ← ast.assemble [] enclosing slot nodes
    modify fun construction ↦ { construction with stubs := construction.stubs + 1 }
    return node
  | ast => ast.assemble [] enclosing slot nodes

theorem constructEntries_eq (entries : List (String × Ast)) (i : Nat)
    (construction : Construction) :
    constructEntries enclosing slot i entries construction =
      (constructList enclosing slot i (Entries.values entries) construction).map fun r ↦
        ((Entries.keys entries).zip r.1, r.2) := by
  induction entries generalizing i construction with
  | nil => rfl
  | cons entry rest ih =>
    obtain ⟨name, ast⟩ := entry
    show (constructNode enclosing (i :: slot) ast construction >>= fun r ↦
        constructEntries enclosing slot (i + 1) rest r.2 >>= fun r' ↦
          pure ((name, r.1) :: r'.1, r'.2)) =
      (constructNode enclosing (i :: slot) ast construction >>= fun r ↦
        constructList enclosing slot (i + 1) (Entries.values rest) r.2 >>= fun r' ↦
          pure (r.1 :: r'.1, r'.2)).map _
    cases constructNode enclosing (i :: slot) ast construction with
    | error e => rfl
    | ok r =>
      show (constructEntries enclosing slot (i + 1) rest r.2 >>= _) =
        (constructList enclosing slot (i + 1) (Entries.values rest) r.2 >>= _).map _
      rw [ih]
      cases constructList enclosing slot (i + 1) (Entries.values rest) r.2 <;> rfl

/-- A node is constructed after its children, and its slot is written last. -/
theorem constructNode_eq (ast : Ast) :
    constructNode enclosing slot ast = (do
      let before ← get
      let nodes ← constructList ((ast.kind, slot) :: enclosing) slot 0 ast.children
      let node ← ast.assembling enclosing slot before.stubs nodes
      Constructing.finish slot node) := by
  funext construction
  cases ast with
  | string c =>
    show (_ : Except SchemaError _) = Ast.assembling _ _ _ _ _ _ >>= _
    simp only [constructNode, Ast.assembling, Ast.assemble]
    cases StringType.ofConstraints c <;> rfl
  | literal values =>
    show (_ : Except SchemaError _) = Ast.assembling _ _ _ _ _ _ >>= _
    simp only [constructNode, Ast.assembling, Ast.assemble]
    cases LiteralType.ofValues values <;> rfl
  | number | integer | boolean | null | symbol => rfl
  | array item c =>
    show (constructNode ((.array, slot) :: enclosing) (0 :: slot) item construction >>= _) =
      (constructNode ((.array, slot) :: enclosing) (0 :: slot) item construction >>= _) >>= _
    cases constructNode ((.array, slot) :: enclosing) (0 :: slot) item construction <;> rfl
  | tuple elements =>
    show (constructList ((.tuple, slot) :: enclosing) slot 0 elements construction >>= _) =
      constructList ((.tuple, slot) :: enclosing) slot 0 elements construction >>= _
    cases constructList ((.tuple, slot) :: enclosing) slot 0 elements construction <;> rfl
  | union members =>
    show (constructList ((.union, slot) :: enclosing) slot 0 members construction >>= _) =
      constructList ((.union, slot) :: enclosing) slot 0 members construction >>= _
    cases constructList ((.union, slot) :: enclosing) slot 0 members construction <;> rfl
  | struct fields required extraKeys =>
    show (constructEntries ((.struct, slot) :: enclosing) slot 0 fields construction >>= _) =
      constructList ((.struct, slot) :: enclosing) slot 0 (Entries.values fields) construction >>= _
    rw [constructEntries_eq]
    cases constructList ((.struct, slot) :: enclosing) slot 0 (Entries.values fields) construction
      <;> rfl
  | record key value =>
    show (constructNode ((.record, slot) :: enclosing) (0 :: slot) key construction >>= fun r ↦
        constructNode ((.record, slot) :: enclosing) (1 :: slot) value r.2 >>= _) =
      (constructNode ((.record, slot) :: enclosing) (0 :: slot) key construction >>= fun r ↦
        (constructNode ((.record, slot) :: enclosing) (1 :: slot) value r.2 >>= _) >>= _) >>= _
    cases constructNode ((.record, slot) :: enclosing) (0 :: slot) key construction with
    | error e => rfl
    | ok r =>
      show (constructNode ((.record, slot) :: enclosing) (1 :: slot) value r.2 >>= _) =
        ((constructNode ((.record, slot) :: enclosing) (1 :: slot) value r.2 >>= _) >>= _) >>= _
      cases constructNode ((.record, slot) :: enclosing) (1 :: slot) value r.2 <;> rfl
  | discriminatedUnion discriminator variants =>
    show (constructEntries ((.discriminatedUnion, slot) :: enclosing) slot 0 variants construction
        >>= _) =
      constructList ((.discriminatedUnion, slot) :: enclosing) slot 0 (Entries.values variants)
        construction >>= _
    rw [constructEntries_eq]
    cases constructList ((.discriminatedUnion, slot) :: enclosing) slot 0 (Entries.values variants)
        construction with
    | error e => rfl
    | ok r =>
      show ((liftM (Node.checkVariants discriminator [] ((Entries.keys variants).zip r.1)) :
          Constructing Unit) r.2 >>= _) = Ast.assembling _ _ _ _ _ _ >>= _
      simp only [Ast.assembling, Ast.assemble]
      cases Node.checkVariants discriminator [] ((Entries.keys variants).zip r.1) <;> rfl
  | optional inner default =>
    cases default <;>
    · show (constructNode ((.optional, slot) :: enclosing) (0 :: slot) inner construction >>= _) =
        (constructNode ((.optional, slot) :: enclosing) (0 :: slot) inner construction >>= _) >>= _
      cases constructNode ((.optional, slot) :: enclosing) (0 :: slot) inner construction <;> rfl
  | transform inner target =>
    show (constructNode ((.transform, slot) :: enclosing) (0 :: slot) inner construction >>= _) =
      (constructNode ((.transform, slot) :: enclosing) (0 :: slot) inner construction >>= _) >>= _
    cases constructNode ((.transform, slot) :: enclosing) (0 :: slot) inner construction <;> rfl
  | lazy name refKind refDepth =>
    show constructNode _ _ _ _ = Ast.assembling _ _ _ _ _ _ >>= _
    simp only [constructNode, Ast.assembling, Ast.assemble]
    cases designated? enclosing refKind refDepth <;> rfl

end Steps

/-! ### What the steps add -/

/-- What a construction adds: slots that are written, defaults that are put off, and stubs where
there is one. No reference is looked up early. -/
structure Construction.Extends (published : References) (deferred : List (Node × Value))
    (stub : Bool) (before after : Construction) : Prop where
  /-- The slots that are written. -/
  slots : after.slots.Perm (published ++ before.slots)
  /-- The defaults that are put off. -/
  deferred : after.deferred = before.deferred ++ deferred
  /-- Nothing is looked up early. -/
  early : after.early = before.early
  /-- Stubs are counted. -/
  stubs : before.stubs ≤ after.stubs
  /-- There are more of them exactly where there is one. -/
  counted : after.stubs = before.stubs ↔ stub = false

namespace Construction.Extends

variable {published published' : References} {deferred deferred' : List (Node × Value)}
  {stub stub' : Bool} {before middle after : Construction}

theorem refl (construction : Construction) : Extends [] [] false construction construction :=
  ⟨List.Perm.refl _, (List.append_nil _).symm, rfl, Nat.le_refl _, iff_of_true rfl rfl⟩

theorem trans (first : Extends published deferred stub before middle)
    (second : Extends published' deferred' stub' middle after) :
    Extends (published ++ published') (deferred ++ deferred') (stub || stub') before after where
  slots := by
    refine (second.slots.trans (first.slots.append_left published')).trans ?_
    rw [← List.append_assoc]
    exact List.perm_append_comm.append_right before.slots
  deferred := by rw [second.deferred, first.deferred, List.append_assoc]
  early := second.early.trans first.early
  stubs := Nat.le_trans first.stubs second.stubs
  counted := by
    have le := first.stubs
    have le' := second.stubs
    rw [Bool.or_eq_false_iff, ← first.counted, ← second.counted]
    omega

/-- A slot is written. -/
theorem finish (extends_ : Extends published deferred stub before after) (slot : Place)
    (node : Node) :
    Extends ((slot, node) :: published) deferred stub before (after.publish slot node) where
  slots := extends_.slots.cons (slot, node)
  deferred := extends_.deferred
  early := extends_.early
  stubs := extends_.stubs
  counted := extends_.counted

end Construction.Extends

/-- What is built and what is constructed are the same node, and what is published is written. -/
private def Beside (stub : Bool) (before : Construction) (part : Part) (node : Node)
    (after : Construction) : Prop :=
  node = part.node ∧ Construction.Extends part.published part.deferred stub before after

/-- The same for children. -/
private def BesideList (stub : Bool) (before : Construction) (parts : List Part)
    (nodes : List Node) (after : Construction) : Prop :=
  nodes = parts.map Part.node ∧ Construction.Extends (parts.flatMap Part.published)
    (parts.flatMap Part.deferred) stub before after

private theorem follows_constructList (enclosing : List (Kind × Place)) (place : Place)
    {asts : List Ast}
    (each : ∀ ast ∈ asts, ∀ place construction, Follows (Beside ast.hasStub construction)
      (buildNode enclosing place ast) (constructNode enclosing place ast construction))
    (i : Nat) (construction : Construction) :
    Follows (BesideList (Ast.anyStub asts) construction) (buildList enclosing place i asts)
      (constructList enclosing place i asts construction) := by
  induction asts generalizing i construction with
  | nil => exact ⟨rfl, .refl construction⟩
  | cons ast rest ih =>
    obtain ⟨first, later⟩ := List.forall_mem_cons.1 each
    rw [buildList, constructList]
    refine (first _ construction).bind fun part node middle _ beside ↦ ?_
    refine (ih later (i + 1) middle).bind fun parts nodes after _ besideRest ↦ ?_
    obtain ⟨rfl, here⟩ := beside
    obtain ⟨rfl, there⟩ := besideRest
    exact ⟨rfl, here.trans there⟩

/-- The same for the node that is made around children: nothing is written. -/
private def BesideMade (deferred : List (Node × Value)) (stub : Bool) (before : Construction)
    (node node' : Node) (after : Construction) : Prop :=
  node' = node ∧ Construction.Extends [] deferred stub before after

/-- A default is decoded now where its type holds no stub, and looks nothing up, or is put off. -/
private theorem follows_withDefault (references : References) (enclosing : List (Kind × Place))
    (place : Place) {inner : Ast} {default : Value} {nodes : List Node}
    {before after : Construction}
    (noStub : inner.hasStub = false → (nodes.getD 0 .null).All (Node.Refers fun _ ↦ False))
    (counted : after.stubs = before.stubs ↔ inner.hasStub = false) :
    Follows (BesideMade ((Ast.optional inner (some default)).deferred nodes) false after)
      ((Ast.optional inner (some default)).assemble references enclosing place nodes)
      (Constructing.withDefault before.stubs place (nodes.getD 0 .null) default after) := by
  cases stub : inner.hasStub with
  | true =>
    have more : ¬after.stubs = before.stubs := by simp [counted, stub]
    have later : Constructing.withDefault before.stubs place (nodes.getD 0 .null) default after =
        .ok (.optional (some place) (nodes.getD 0 .null) (some default),
          after.defer (nodes.getD 0 .null) default) := by
      show (if after.stubs = before.stubs then _ else _ : Constructing Node) after = _
      rw [if_neg more]
      rfl
    rw [later, Ast.assemble, Ast.deferred, if_pos stub, if_pos stub]
    exact ⟨rfl, List.Perm.refl _, rfl, rfl, Nat.le_refl _, iff_of_true rfl rfl⟩
  | false =>
    have same : after.stubs = before.stubs := counted.2 stub
    have silent : after.decoding (nodes.getD 0 .null) default = after := by
      rw [Construction.decoding, traceAt_eq_nil (noStub stub), List.filter_nil, List.append_nil]
    have now : Constructing.withDefault before.stubs place (nodes.getD 0 .null) default after =
        (optionalWithDefault after.slots (some place) (nodes.getD 0 .null) default).map
          fun node ↦ (node, after) := by
      show (if after.stubs = before.stubs then _ else _ : Constructing Node) after = _
      rw [if_pos same]
      show (liftM (optionalWithDefault (after.decoding (nodes.getD 0 .null) default).slots
        (some place) (nodes.getD 0 .null) default) : Constructing Node)
        (after.decoding (nodes.getD 0 .null) default) = _
      rw [silent]
      cases optionalWithDefault after.slots (some place) (nodes.getD 0 .null) default <;> rfl
    have refers : ∀ inner' default', Ast.optional inner (some default) =
        .optional inner' (some default') → inner'.hasStub = false →
        (nodes.getD 0 .null).All (Node.Refers fun _ ↦ False) := by
      intro inner' default' eq noStub'
      cases eq
      exact noStub noStub'
    rw [now, ← assemble_congr references after.slots refers, Ast.assemble, Ast.deferred,
      if_neg (by simp [stub]), if_neg (by simp [stub])]
    cases optionalWithDefault after.slots (some place) (nodes.getD 0 .null) default with
    | error e => exact rfl
    | ok node => exact ⟨rfl, .refl after⟩

/-- Making a node adds nothing but a default that is put off or a stub that is counted. -/
private theorem follows_assembling (references : References) (enclosing : List (Kind × Place))
    (place : Place) {ast : Ast} {nodes : List Node} {before after : Construction}
    (noStub : ∀ inner default, ast = .optional inner (some default) → inner.hasStub = false →
      (nodes.getD 0 .null).All (Node.Refers fun _ ↦ False))
    (counted : after.stubs = before.stubs ↔ Ast.anyStub ast.children = false) :
    Follows (BesideMade (ast.deferred nodes) (decide (ast.kind = .lazy)) after)
      (ast.assemble references enclosing place nodes)
      (ast.assembling enclosing place before.stubs nodes after) := by
  have plain (unchanged : ast.assembling enclosing place before.stubs nodes =
        liftM (ast.assemble [] enclosing place nodes))
      (nothing : ast.deferred nodes = []) (notLazy : ast.kind ≠ .lazy) :
      Follows (BesideMade (ast.deferred nodes) (decide (ast.kind = .lazy)) after)
        (ast.assemble references enclosing place nodes)
        (ast.assembling enclosing place before.stubs nodes after) := by
    rw [unchanged, nothing, decide_eq_false notLazy, ← assemble_congr references [] noStub]
    cases ast.assemble [] enclosing place nodes with
    | error e => exact rfl
    | ok node => exact ⟨rfl, .refl after⟩
  cases ast with
  | optional inner default =>
    cases default with
    | none => exact plain rfl rfl (by simp [Ast.kind])
    | some default =>
      exact follows_withDefault references enclosing place (noStub inner default rfl)
        (by simpa [Ast.children, Ast.anyStub] using counted)
  | lazy name refKind refDepth =>
    rw [Ast.assemble, Ast.assembling, Ast.assemble]
    cases designated? enclosing refKind refDepth with
    | none => exact rfl
    | some reference =>
      refine ⟨rfl, List.Perm.refl _, (List.append_nil _).symm, rfl, Nat.le_succ _, ?_⟩
      simp [Ast.kind]
  | _ => exact plain rfl rfl (by simp [Ast.kind])

theorem follows_constructNode (ast : Ast) (enclosing : List (Kind × Place)) (place : Place)
    (construction : Construction) :
    Follows (Beside ast.hasStub construction) (buildNode enclosing place ast)
      (constructNode enclosing place ast construction) := by
  induction ast using Ast.induction generalizing enclosing place construction with
  | step ast ih =>
    have children := follows_constructList ((ast.kind, place) :: enclosing) place
      (fun child member place construction ↦ ih child member _ place construction) 0 construction
    rw [buildNode_eq, constructNode_eq]
    show Follows _ _ ((constructList _ place 0 ast.children >>= fun nodes ↦
      ast.assembling enclosing place construction.stubs nodes >>=
        Constructing.finish place) construction)
    refine children.bind fun parts nodes after built beside ↦ ?_
    obtain ⟨rfl, below⟩ := beside
    have assembling := follows_assembling (parts.flatMap Part.published) enclosing place
      (refers_of_buildList built) below.counted
    refine assembling.bind fun node node' last _ made ↦ ?_
    obtain ⟨rfl, here⟩ := made
    have whole := (below.trans here).finish place node'
    rw [List.append_nil, ← Ast.hasStub_eq] at whole
    exact ⟨rfl, whole⟩

/-! ### The whole construction -/

/-- Decoding what was put off reads written slots only, and yields what it yields on the table. -/
private theorem checkDeferred_eq {references : References} {construction : Construction}
    (same : ∀ r, construction.slots.lookup r = references.lookup r)
    {entries : List (Node × Value)}
    (closed : ∀ entry ∈ entries, entry.1.All (Node.Refers (· ∈ references.places)))
    (resolved : ∀ r, (references.resolve r).All (Node.Refers (· ∈ references.places))) :
    Constructing.checkDeferred entries construction =
      (checkDefaults references entries).map fun _ ↦ ((), construction) := by
  have sameNode (r : Place) : construction.slots.resolve r = references.resolve r := by
    rw [References.resolve, References.resolve, same]
  induction entries with
  | nil => rfl
  | cons entry rest ih =>
    obtain ⟨type, default⟩ := entry
    obtain ⟨here, later⟩ := List.forall_mem_cons.1 closed
    have silent : construction.decoding type default = construction := by
      have none : (traceAt construction.slots defaultMaxDepth defaultMaxDepth type default).filter
          (fun slot ↦ !construction.isWritten slot) = [] := by
        refine List.filter_eq_nil_iff.2 fun r traced ↦ ?_
        have known : r ∈ references.places :=
          mem_traceAt (fun r _ ↦ by rw [sameNode]; exact resolved r) here traced
        rw [Construction.isWritten, same, Bool.not_eq_true, Bool.not_eq_false']
        exact References.isSome_lookup known
      rw [Construction.decoding, none, List.append_nil]
    have decoded : decodeAt construction.slots defaultMaxDepth defaultMaxDepth type default =
        decodeAt references defaultMaxDepth defaultMaxDepth type default :=
      decodeAt_of_traceAt fun r _ ↦ sameNode r
    show ((discard ((decodeAt (construction.decoding type default).slots defaultMaxDepth
          defaultMaxDepth type default).mapError SchemaError.invalidDefault) : Constructing Unit)
        (construction.decoding type default) >>= fun r ↦ Constructing.checkDeferred rest r.2) = _
    rw [silent, decoded, checkDefaults]
    cases decodeAt references defaultMaxDepth defaultMaxDepth type default with
    | error cause => rfl
    | ok _ => exact ih later

/-- Step by step, a description yields the root that it yields at once, or its error. The slots hold
what its references stand for, each was written once, and none was read while it was empty. -/
theorem Schema.follows_construct (ast : Ast) :
    Follows (fun schema root construction ↦ root = schema.root ∧ construction.early = []
        ∧ construction.slots.places.Nodup
        ∧ ∀ r, construction.slots.lookup r = schema.references.lookup r)
      (Schema.ofAst ast) (Schema.construct ast) := by
  refine (follows_constructNode ast [] [] {}).bind fun part root construction built beside ↦ ?_
  obtain ⟨rfl, extends_⟩ := beside
  have perm : construction.slots.Perm part.published := by simpa using extends_.slots
  have deferred : construction.deferred = part.deferred := by simpa using extends_.deferred
  have unique := (sited_of_buildNode built).unique
  have uniqueSlots : construction.slots.places.Nodup := (perm.map Prod.fst).nodup_iff.2 unique
  have same (r : Place) : construction.slots.lookup r = part.published.lookup r := by
    refine Option.ext fun node ↦ ?_
    rw [lookup_eq_some_iff uniqueSlots, lookup_eq_some_iff unique, perm.mem_iff]
  have closed : part.Closed (· ∈ part.published.places) :=
    closed_of_buildNode built (fun _ none ↦ absurd none List.not_mem_nil) fun _ ↦ id
  have resolved : ∀ r, (part.published.resolve r).All (Node.Refers (· ∈ part.published.places)) :=
    References.resolve_induction closed.published (.intro trivial (by simp [Node.children]))
  have checked := checkDeferred_eq same closed.deferred resolved
  show Follows _ _ ((Constructing.checkDeferred construction.deferred >>= fun _ ↦
    pure part.node) construction)
  rw [deferred]
  show Follows _ (checkDefaults part.published part.deferred >>= _)
    (Constructing.checkDeferred part.deferred construction >>= _)
  rw [checked]
  cases checkDefaults part.published part.deferred with
  | error e => exact rfl
  | ok => exact ⟨rfl, extends_.early, uniqueSlots, same⟩

end Schemata
