import Schemata.Schema.Rebuild
import Schemata.Schema.Trace

/-!
# Building step by step

The steps of the builder in the order in which they happen. Every description that is begun has a
slot, which is written once its node is finished; a stub becomes a reference to the slot of an
enclosing description, and what it stands for is read from that slot when it is looked up. A
reference that is looked up while its slot is empty would stand for null, then and ever after;
`Construction.early` collects those.

A default is decoded in the middle of this if no stub was made since its type was begun, which a
counter tells; any other is put off to the end.
-/

namespace Schemata

/-- How far a construction has come. -/
structure Construction where
  /-- The slots that are written, the last one first. -/
  slots : References := []
  /-- How many stubs were made. -/
  stubs : Nat := 0
  /-- The defaults that are put off, with their types. -/
  deferred : List (Node × Value) := []
  /-- The references that were looked up while their slots were empty. -/
  early : List Place := []

namespace Construction

/-- Whether a slot is written. -/
def isWritten (construction : Construction) (slot : Place) : Bool :=
  (construction.slots.lookup slot).isSome

/-- Write a slot. -/
def publish (slot : Place) (node : Node) (construction : Construction) : Construction :=
  { construction with slots := (slot, node) :: construction.slots }

/-- Put off a default. -/
def defer (type : Node) (default : Value) (construction : Construction) : Construction :=
  { construction with deferred := construction.deferred ++ [(type, default)] }

/-- Decode a default, which looks up references at this point. -/
def decoding (type : Node) (default : Value) (construction : Construction) : Construction :=
  let visited := traceAt construction.slots defaultMaxDepth defaultMaxDepth type default
  { construction with
    early := construction.early ++ visited.filter fun slot ↦ !construction.isWritten slot }

end Construction

/-- A step of a construction. -/
abbrev Constructing := StateT Construction (Except SchemaError)

namespace Constructing

/-- A node is finished: its slot is written. -/
def finish (slot : Place) (node : Node) : Constructing Node := do
  modify (.publish slot node)
  return node

/-- An optional node with a default, which is decoded now if no stub was made since there were
`before`. -/
def withDefault (before : Nat) (slot : Place) (type : Node) (default : Value) :
    Constructing Node := do
  if (← get).stubs = before then
    modify (.decoding type default)
    optionalWithDefault (← get).slots (some slot) type default
  else
    modify (.defer type default)
    return .optional (some slot) type (some default)

/-- Decode the defaults that were put off. -/
def checkDeferred : List (Node × Value) → Constructing Unit
  | [] => return ()
  | (type, default) :: rest => do
    modify (.decoding type default)
    let result := decodeAt (← get).slots defaultMaxDepth defaultMaxDepth type default
    discard (result.mapError SchemaError.invalidDefault)
    checkDeferred rest

end Constructing

open Constructing in
mutual

/-- Construct the node of a description with a slot of its own, below the enclosing ones. -/
def constructNode (enclosing : List (Kind × Place)) (slot : Place) : Ast → Constructing Node
  | .string c => do finish slot (.string (← StringType.ofConstraints c))
  | .number c => finish slot (.number c)
  | .integer c => finish slot (.integer c)
  | .boolean => finish slot .boolean
  | .null => finish slot .null
  | .symbol => finish slot .symbol
  | .literal values => do finish slot (.literal (← LiteralType.ofValues values))
  | .array item c => do
    let node ← constructNode ((.array, slot) :: enclosing) (0 :: slot) item
    finish slot (.array (some slot) node c)
  | .tuple elements => do
    finish slot (.tuple (some slot) (← constructList ((.tuple, slot) :: enclosing) slot 0 elements))
  | .struct fields required extraKeys => do
    let nodes ← constructEntries ((.struct, slot) :: enclosing) slot 0 fields
    let named := nodes.map fun field ↦ (field.1, asField required field.1 field.2)
    finish slot (.struct (some slot) named extraKeys)
  | .record key value => do
    let keyNode ← constructNode ((.record, slot) :: enclosing) (0 :: slot) key
    let valueNode ← constructNode ((.record, slot) :: enclosing) (1 :: slot) value
    finish slot (.record (some slot) keyNode valueNode)
  | .union members => do
    finish slot (.union (some slot) (← constructList ((.union, slot) :: enclosing) slot 0 members))
  | .discriminatedUnion discriminator variants => do
    let nodes ← constructEntries ((.discriminatedUnion, slot) :: enclosing) slot 0 variants
    Node.checkVariants discriminator [] nodes
    finish slot (.discriminatedUnion (some slot) discriminator nodes)
  | .optional inner none => do
    let type ← constructNode ((.optional, slot) :: enclosing) (0 :: slot) inner
    finish slot (.optional (some slot) type none)
  | .optional inner (some default) => do
    let before := (← get).stubs
    let type ← constructNode ((.optional, slot) :: enclosing) (0 :: slot) inner
    finish slot (← withDefault before slot type default)
  | .transform inner _ => do
    finish slot (← constructNode ((.transform, slot) :: enclosing) (0 :: slot) inner)
  | .lazy name refKind refDepth =>
    match designated? enclosing refKind refDepth with
    | some reference => do
      modify fun construction ↦ { construction with stubs := construction.stubs + 1 }
      finish slot (.lazy name reference)
    | none => throw (.unsupported (.danglingReference name refKind))

/-- Construct the children of a node from the `i`th on. -/
def constructList (enclosing : List (Kind × Place)) (slot : Place) (i : Nat) :
    List Ast → Constructing (List Node)
  | [] => return []
  | ast :: rest => do
    let node ← constructNode enclosing (i :: slot) ast
    return node :: (← constructList enclosing slot (i + 1) rest)

/-- Construct the named children of a node from the `i`th on. -/
def constructEntries (enclosing : List (Kind × Place)) (slot : Place) (i : Nat) :
    List (String × Ast) → Constructing (List (String × Node))
  | [] => return []
  | (name, ast) :: rest => do
    let node ← constructNode enclosing (i :: slot) ast
    return (name, node) :: (← constructEntries enclosing slot (i + 1) rest)

end

/-- Construct the schema of a description, and how far that came: the root, then the defaults that
were put off. -/
def Schema.construct (ast : Ast) : Except SchemaError (Node × Construction) :=
  let constructing : Constructing Node := do
    let root ← constructNode [] [] ast
    Constructing.checkDeferred (← get).deferred
    return root
  constructing.run {}

end Schemata
