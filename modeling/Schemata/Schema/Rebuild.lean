import Schemata.Ast.Basic
import Schemata.Schema.Decode

/-!
# Rebuilding schemas from descriptions

Every node of a description has a place, and what is built from it stands in the table of references
under that place. A stub becomes a reference to the place of the enclosing node it designates, so
the references of a rebuilt schema never fall back to null (`buildNode` only hands out places of
enclosing nodes, and every enclosing node is published when it is finished). Checks are made again:
patterns are compiled, defaults decoded, variants compared with their tags.

A default whose type holds no stub is decoded at once and kept in decoded form. Any other is kept as
it is and checked when the whole tree exists.
-/

namespace Schemata

/-- What building a part of a description yields. -/
structure Part where
  /-- The node that was built. -/
  node : Node
  /-- What the places of the part stand for. -/
  published : References
  /-- Defaults to be checked when the whole tree exists, with their types. -/
  deferred : List (Node × Value)

/-- A part built at `place` from `children`. -/
def Part.of (place : Place) (node : Node) (children : List Part) : Part where
  node := node
  published := (place, node) :: children.flatMap Part.published
  deferred := children.flatMap Part.deferred

/-- Add a default to be checked later. -/
def Part.deferring (part : Part) (type : Node) (default : Value) : Part :=
  { part with deferred := part.deferred ++ [(type, default)] }

/-- A field that is not required is optional, whatever its description says. -/
def asField (required : List String) (name : String) (node : Node) : Node :=
  if node.isOptional || required.contains name then node else .optional none node none

/-- The place of the enclosing node that a stub designates: the one `refDepth` levels up if it has
the kind, or the nearest of the kind. -/
def designated? (enclosing : List (Kind × Place)) (kind : Kind) :
    (refDepth : Option Nat) → Option Place
  | none => (enclosing.find? fun e ↦ e.1 == kind).map Prod.snd
  | some 0 => none
  | some (up + 1) => enclosing[up]?.bind fun e ↦ if e.1 = kind then some e.2 else none

/-- An optional node with a default that is decoded now. -/
def optionalWithDefault (references : References) (place : Option Place) (inner : Node)
    (default : Value) : Except SchemaError Node :=
  match decodeAt references defaultMaxDepth defaultMaxDepth inner default with
  | .ok decoded => .ok (.optional place inner (some decoded))
  | .error cause => .error (.invalidDefault cause)

/-- Check that every default decodes through its type. -/
def checkDefaults (references : References) : List (Node × Value) → Except SchemaError Unit
  | [] => .ok ()
  | (type, default) :: rest =>
    match decodeAt references defaultMaxDepth defaultMaxDepth type default with
    | .ok _ => checkDefaults references rest
    | .error cause => .error (.invalidDefault cause)

mutual

/-- Build the node of a description at `place`, below the enclosing nodes, innermost first. -/
def buildNode (enclosing : List (Kind × Place)) (place : Place) : Ast → Except SchemaError Part
  | .string c => do
    let type ← StringType.ofConstraints c
    return .of place (.string type) []
  | .number c => return .of place (.number c) []
  | .integer c => return .of place (.integer c) []
  | .boolean => return .of place .boolean []
  | .null => return .of place .null []
  | .symbol => return .of place .symbol []
  | .literal values => do
    let type ← LiteralType.ofValues values
    return .of place (.literal type) []
  | .array item c => do
    let part ← buildNode ((.array, place) :: enclosing) (0 :: place) item
    return .of place (.array (some place) part.node c) [part]
  | .tuple elements => do
    let parts ← buildList ((.tuple, place) :: enclosing) place 0 elements
    return .of place (.tuple (some place) (parts.map Part.node)) parts
  | .struct fields required extraKeys => do
    let parts ← buildEntries ((.struct, place) :: enclosing) place 0 fields
    let nodes := parts.map fun p ↦ (p.1, asField required p.1 p.2.node)
    return .of place (.struct (some place) nodes extraKeys) (parts.map Prod.snd)
  | .record key value => do
    let keyPart ← buildNode ((.record, place) :: enclosing) (0 :: place) key
    let valuePart ← buildNode ((.record, place) :: enclosing) (1 :: place) value
    return .of place (.record (some place) keyPart.node valuePart.node) [keyPart, valuePart]
  | .union members => do
    let parts ← buildList ((.union, place) :: enclosing) place 0 members
    return .of place (.union (some place) (parts.map Part.node)) parts
  | .discriminatedUnion discriminator variants => do
    let parts ← buildEntries ((.discriminatedUnion, place) :: enclosing) place 0 variants
    let nodes := parts.map fun p ↦ (p.1, p.2.node)
    Node.checkVariants discriminator [] nodes
    return .of place (.discriminatedUnion (some place) discriminator nodes) (parts.map Prod.snd)
  | .optional inner default => do
    let part ← buildNode ((.optional, place) :: enclosing) (0 :: place) inner
    match default with
    | none => return .of place (.optional (some place) part.node none) [part]
    | some value =>
      if inner.hasStub then
        let node := .optional (some place) part.node (some value)
        return (Part.of place node [part]).deferring part.node value
      else
        let node ← optionalWithDefault part.published (some place) part.node value
        return .of place node [part]
  | .transform inner _ => do
    let part ← buildNode ((.transform, place) :: enclosing) (0 :: place) inner
    return .of place part.node [part]
  | .lazy name refKind refDepth =>
    match designated? enclosing refKind refDepth with
    | some reference => return .of place (.lazy name reference) []
    | none => throw (.unsupported (.danglingReference name refKind))

/-- Build the children of a node from the `i`th on. -/
def buildList (enclosing : List (Kind × Place)) (place : Place) (i : Nat) :
    List Ast → Except SchemaError (List Part)
  | [] => return []
  | ast :: rest => do
    let part ← buildNode enclosing (i :: place) ast
    return part :: (← buildList enclosing place (i + 1) rest)

/-- Build the named children of a node from the `i`th on. -/
def buildEntries (enclosing : List (Kind × Place)) (place : Place) (i : Nat) :
    List (String × Ast) → Except SchemaError (List (String × Part))
  | [] => return []
  | (name, ast) :: rest => do
    let part ← buildNode enclosing (i :: place) ast
    return (name, part) :: (← buildEntries enclosing place (i + 1) rest)

end

namespace Schema

/-- The schema of a description. -/
def ofAst (ast : Ast) : Except SchemaError Schema := do
  let part ← buildNode [] [] ast
  checkDefaults part.published part.deferred
  return ⟨part.node, part.published⟩

/-- The schema whose values are those of another, or absent. -/
def optional (schema : Schema) : Schema :=
  { schema with root := .optional none schema.root none }

/-- The schema whose values are those of another, or absent and replaced by a default. -/
def withDefault (schema : Schema) (default : Value) : Except SchemaError Schema := do
  let root ← optionalWithDefault schema.references none schema.root default
  return { schema with root }

end Schema

end Schemata
