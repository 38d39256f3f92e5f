import Schemata.Schema.Rebuild
import Schemata.Schema.Trace

/-!
# Declaring schemas

A blueprint is a schema as its author writes it: constructors in a tree, conversions included, with
named definitions beside it. `Blueprint.definition` stands for the one node of a definition,
wherever it occurs; `Blueprint.lazy` is a reference, which is looked up on first use. Children are
declared from left to right and the first constructor that fails fails the whole.

Declaring decodes defaults, so a reference can be looked up before its definition is finished. Such
a reference stands for null, then and ever after; `Progress.missed` keeps it.
-/

namespace Schemata

/-- A schema as it is declared. -/
inductive Blueprint where
  /-- A string. -/
  | string (constraints : StringConstraints)
  /-- A number. -/
  | number (constraints : NumericConstraints)
  /-- A number with an integral value. -/
  | integer (constraints : NumericConstraints)
  /-- A truth value. -/
  | boolean
  /-- The null value. -/
  | null
  /-- A string that decodes to a symbol. -/
  | symbol
  /-- One of some scalars. -/
  | literal (values : List Value)
  /-- A sequence of one item type. -/
  | array (item : Blueprint) (constraints : ArrayConstraints)
  /-- A sequence with one type a position. -/
  | tuple (elements : List Blueprint)
  /-- An object with declared fields; a repeated name keeps its first place and its last type. -/
  | struct (fields : List (String × Blueprint)) (extraKeys : ExtraKeys)
  /-- An object with arbitrary keys. -/
  | record (key value : Blueprint)
  /-- The first member that accepts. -/
  | union (members : List Blueprint)
  /-- The variant named by the discriminator field. -/
  | discriminatedUnion (discriminator : String) (variants : List (String × Blueprint))
  /-- A value that may be absent, with the external form of its default. -/
  | optional (inner : Blueprint) (default : Option Value)
  /-- Another type followed by a conversion. -/
  | transform (inner : Blueprint) (target : String) (conversion : Conversion)
  /-- The node of a definition. -/
  | definition (name : String)
  /-- A reference to a definition, looked up on first use. -/
  | lazy (name target : String)

/-- How far a declaration has come. -/
structure Progress where
  /-- The nodes of the definitions that are finished. -/
  finished : Entries Node := []
  /-- The definition that each reference is to. -/
  references : List (Place × String) := []
  /-- The references that were looked up too early. -/
  missed : List Place := []

namespace Progress

/-- The node of a definition; one that is not finished stands for null. -/
def node (progress : Progress) (definition : String) : Node :=
  (Entries.get? definition progress.finished).getD .null

/-- What the references stand for at this point. -/
def table (progress : Progress) : References :=
  progress.references.map fun r ↦
    (r.1, if progress.missed.contains r.1 then .null else progress.node r.2)

/-- Whether a reference is to a definition that is not finished. -/
def isEarly (progress : Progress) (reference : Place) : Bool :=
  match progress.references.lookup reference with
  | some definition => !Entries.contains definition progress.finished
  | none => false

/-- The progress after a default was decoded: early references are missed for good. -/
def afterDecoding (progress : Progress) (type : Node) (default : Value) : Progress :=
  let visited := traceAt progress.table defaultMaxDepth defaultMaxDepth type default
  { progress with missed := progress.missed ++ visited.filter progress.isEarly }

end Progress

/-- A step of a declaration. -/
abbrev Declaring := StateT Progress (Except SchemaError)

namespace Blueprint

mutual

/-- Declare the node at `place`. -/
def declare (place : Place) : Blueprint → Declaring Node
  | .string c => return .string (← StringType.ofConstraints c)
  | .number c => return .number c
  | .integer c => return .integer c
  | .boolean => return .boolean
  | .null => return .null
  | .symbol => return .symbol
  | .literal values => return .literal (← LiteralType.ofValues values)
  | .array item c => return .array (some place) (← declare (0 :: place) item) c
  | .tuple elements => return .tuple (some place) (← declareList place 0 elements)
  | .struct fields extraKeys => do
    return .struct (some place) (Entries.ofList (← declareEntries place 0 fields)) extraKeys
  | .record key value => do
    let keyNode ← declare (0 :: place) key
    return .record (some place) keyNode (← declare (1 :: place) value)
  | .union members => return .union (some place) (← declareList place 0 members)
  | .discriminatedUnion discriminator variants => do
    let nodes ← declareEntries place 0 variants
    Node.checkVariants discriminator [] nodes
    return .discriminatedUnion (some place) discriminator nodes
  | .optional inner none => return .optional (some place) (← declare (0 :: place) inner) none
  | .optional inner (some default) => do
    let type ← declare (0 :: place) inner
    let node ← optionalWithDefault (← get).table (some place) type default
    modify fun progress ↦ progress.afterDecoding type default
    return node
  | .transform inner target conversion => do
    return .transform (some place) (← declare (0 :: place) inner) target conversion
  | .definition name => return (← get).node name
  | .lazy name target => do
    modify fun progress ↦ { progress with references := (place, target) :: progress.references }
    return .lazy name place

/-- Declare the children of a node from the `i`th on. -/
def declareList (place : Place) (i : Nat) : List Blueprint → Declaring (List Node)
  | [] => return []
  | blueprint :: rest => do
    let node ← declare (i :: place) blueprint
    return node :: (← declareList place (i + 1) rest)

/-- Declare the named children of a node from the `i`th on. -/
def declareEntries (place : Place) (i : Nat) :
    List (String × Blueprint) → Declaring (List (String × Node))
  | [] => return []
  | (name, blueprint) :: rest => do
    let node ← declare (i :: place) blueprint
    return (name, node) :: (← declareEntries place (i + 1) rest)

end

/-- Declare definitions one after the other, each at a place of its own. -/
def declareDefinitions (i : Nat) : List (String × Blueprint) → Declaring Unit
  | [] => return ()
  | (name, blueprint) :: rest => do
    let node ← declare [i] blueprint
    modify fun progress ↦ { progress with finished := Entries.insert name node progress.finished }
    declareDefinitions (i + 1) rest

/-- The schema of a blueprint beside its definitions, which are declared first and in order. -/
def toSchema (definitions : List (String × Blueprint)) (root : Blueprint) :
    Except SchemaError Schema := do
  let declaring : Declaring Node := do
    declareDefinitions 0 definitions
    declare [definitions.length] root
  let (root, progress) ← declaring.run {}
  return ⟨root, progress.table⟩

end Blueprint

end Schemata
