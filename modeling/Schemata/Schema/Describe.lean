import Schemata.Ast.Basic
import Schemata.Schema.Encode

/-!
# Describing schemas

A schema is described as a finite tree. References have no node of their own in the description: the
node that a reference stands for is described in its stead, and where that node is one of those
being described, a stub says how far up it stands. Only cycles of references alone have no
description.
-/

namespace Schemata

/-- Describing a node below the places being described, innermost first. -/
abbrev Describer := List (Option Place) → Node → Option Ast

/-- How far up a place stands, where 1 is the innermost. -/
def distanceTo? (stack : List (Option Place)) (place? : Option Place) : Option Nat :=
  match place? with
  | none => none
  | some place => (stack.findIdx? (· == some place)).map (· + 1)

mutual

/-- Describe a node; `inline` describes what a reference stands for. -/
def describeNode (references : References) (inline : Describer) : Describer
  | _, .string type => some (.string type.constraints)
  | _, .number c => some (.number c)
  | _, .integer c => some (.integer c)
  | _, .boolean => some .boolean
  | _, .null => some .null
  | _, .symbol => some .symbol
  | _, .literal type => some (.literal type.values)
  | stack, .array place item c => do
    return .array (← describeNode references inline (place :: stack) item) c
  | stack, .tuple place elements => do
    return .tuple (← describeList references inline (place :: stack) elements)
  | stack, .struct place fields extraKeys => do
    let described ← describeEntries references inline (place :: stack) fields
    return .struct described (Node.requiredNames fields) extraKeys
  | stack, .record place key value => do
    let key ← describeNode references inline (place :: stack) key
    return .record key (← describeNode references inline (place :: stack) value)
  | stack, .union place members => do
    return .union (← describeList references inline (place :: stack) members)
  | stack, .discriminatedUnion place discriminator variants => do
    return .discriminatedUnion discriminator
      (← describeEntries references inline (place :: stack) variants)
  | stack, .optional place inner default => do
    let described ← describeNode references inline (place :: stack) inner
    return .optional described (default.map (encodeAt references defaultMaxDepth inner))
  | stack, .transform place inner target _ => do
    return .transform (← describeNode references inline (place :: stack) inner) target
  | stack, .lazy name reference =>
    let node := references.resolve reference
    match distanceTo? stack node.place? with
    | some distance => some (.lazy name node.kind (some distance))
    | none => inline stack node

/-- Describe nodes one after the other. -/
def describeList (references : References) (inline : Describer) :
    List (Option Place) → List Node → Option (List Ast)
  | _, [] => some []
  | stack, node :: rest => do
    let ast ← describeNode references inline stack node
    return ast :: (← describeList references inline stack rest)

/-- Describe named nodes one after the other. -/
def describeEntries (references : References) (inline : Describer) :
    List (Option Place) → List (String × Node) → Option (List (String × Ast))
  | _, [] => some []
  | stack, (name, node) :: rest => do
    let ast ← describeNode references inline stack node
    return (name, ast) :: (← describeEntries references inline stack rest)

end

/-- Describe through at most `hops` nested references. -/
def describeAt (references : References) : (hops : Nat) → Describer
  | 0, stack, node => describeNode references (fun _ _ ↦ none) stack node
  | hops + 1, stack, node => describeNode references (describeAt references hops) stack node

/-- The description of a schema. Between two nodes that join the stack, references lead to
references at most once each, and each place joins the stack at most once: a description that needs
more hops than the square does not end. -/
def Schema.toAst? (schema : Schema) : Option Ast :=
  let hops := (schema.references.length + 1) * (schema.references.length + 1)
  describeAt schema.references hops [] schema.root

end Schemata
