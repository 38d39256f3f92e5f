import Schemata.Ast.Basic
import Schemata.Error
import Schemata.Pattern.Basic

/-!
# Schemas

A schema is a finite tree of nodes and a table of references. The tree is closed under its children;
only a `lazy` node points elsewhere, through the table, and so may point back at a node around it.
Nodes that a reference can reach carry the place they were declared at: two nodes with one place are
the same node.
-/

namespace Schemata

/-- Where a node was declared: the child positions that lead to it, innermost first. -/
abbrev Place := List Nat

/-- The string type: constraints and the compiled form of their pattern. -/
structure StringType where
  /-- The constraints. -/
  constraints : StringConstraints
  /-- The compiled pattern. -/
  pattern : Option Pattern
  /-- The pattern is the compiled form of the format. -/
  compiled : constraints.format.map Pattern.parse? = pattern.map some

namespace StringType

/-- The string type without constraints. -/
def plain : StringType := ⟨{}, none, rfl⟩

/-- Compile the format of a constraint set. -/
def ofConstraints (c : StringConstraints) : Except SchemaError StringType :=
  match h : c.format with
  | none => .ok ⟨c, none, by simp [h]⟩
  | some format =>
    match compiled : Pattern.parse? format with
    | none => .error (.invalidPattern format)
    | some pattern => .ok ⟨c, some pattern, by simp [h, compiled]⟩

end StringType

/-- The values that a literal may hold: strings, numbers and truth values. -/
def Value.isScalar : Value → Bool
  | .string _ => true
  | .number _ => true
  | .bool _ => true
  | _ => false

/-- The literal type: one or more scalars. -/
structure LiteralType where
  /-- The permitted values. -/
  values : List Value
  /-- There is at least one. -/
  nonempty : values ≠ []
  /-- All of them are scalars. -/
  scalars : values.all Value.isScalar = true

namespace LiteralType

/-- The literal type of some values. -/
def ofValues (values : List Value) : Except SchemaError LiteralType :=
  if nonempty : values = [] then .error (.unsupported .emptyLiteral)
  else
    match h : values.find? (fun v ↦ !v.isScalar) with
    | some bad => .error (.unsupported (.literalValue bad.kind))
    | none => .ok ⟨values, nonempty, by simpa using h⟩

/-- Whether exactly one value is permitted, and it is loosely equal to `value`. -/
def isExactly (type : LiteralType) (value : Value) : Bool :=
  match type.values with
  | [only] => only.looselyEq value
  | _ => false

end LiteralType

/-- A pair of total conversions. -/
structure Conversion where
  /-- Applied to what the inner type decodes. -/
  decode : Value → Value
  /-- Applied before the inner type encodes. -/
  encode : Value → Value

/-- A node of a schema. -/
inductive Node where
  /-- A string. -/
  | string (type : StringType)
  /-- A number. -/
  | number (constraints : NumericConstraints)
  /-- A number with an integral value. -/
  | integer (constraints : NumericConstraints)
  /-- A truth value. -/
  | boolean
  /-- The null value. -/
  | null
  /-- A string that decodes to a symbol. -/
  | symbol
  /-- One of some scalars. -/
  | literal (type : LiteralType)
  /-- A sequence of one item type. -/
  | array (place : Option Place) (item : Node) (constraints : ArrayConstraints)
  /-- A sequence with one type a position. -/
  | tuple (place : Option Place) (elements : List Node)
  /-- An object with declared fields. -/
  | struct (place : Option Place) (fields : List (String × Node)) (extraKeys : ExtraKeys)
  /-- An object with arbitrary keys. -/
  | record (place : Option Place) (key value : Node)
  /-- The first member that accepts. -/
  | union (place : Option Place) (members : List Node)
  /-- The variant named by the discriminator field. -/
  | discriminatedUnion (place : Option Place) (discriminator : String)
      (variants : List (String × Node))
  /-- A value that may be absent, with the decoded form of its default. -/
  | optional (place : Option Place) (inner : Node) (default : Option Value)
  /-- Another type followed by a conversion. -/
  | transform (place : Option Place) (inner : Node) (target : String) (conversion : Conversion)
  /-- A reference, looked up in the table of the schema. -/
  | lazy (name : String) (reference : Place)

namespace Node

/-- The kind of a node. -/
def kind : Node → Kind
  | .string _ => .string
  | .number _ => .number
  | .integer _ => .integer
  | .boolean => .boolean
  | .null => .null
  | .symbol => .symbol
  | .literal _ => .literal
  | .array _ _ _ => .array
  | .tuple _ _ => .tuple
  | .struct _ _ _ => .struct
  | .record _ _ _ => .record
  | .union _ _ => .union
  | .discriminatedUnion _ _ _ => .discriminatedUnion
  | .optional _ _ _ => .optional
  | .transform _ _ _ _ => .transform
  | .lazy _ _ => .lazy

/-- The place of a node with children. -/
def place? : Node → Option Place
  | .array place _ _ => place
  | .tuple place _ => place
  | .struct place _ _ => place
  | .record place _ _ => place
  | .union place _ => place
  | .discriminatedUnion place _ _ => place
  | .optional place _ _ => place
  | .transform place _ _ _ => place
  | _ => none

/-- Whether the node itself marks a value that may be absent. -/
def isOptional : Node → Bool
  | .optional _ _ _ => true
  | _ => false

/-- The names of the fields that must be present, in order. -/
def requiredNames (fields : Entries Node) : List String :=
  (fields.filter fun field ↦ !field.2.isOptional).map Prod.fst

/-- Why a variant does not fit its tag, if it does not. -/
def variantFault? (discriminator tag : String) (variant : Node) : Option VariantFault :=
  match variant with
  | .struct _ fields _ =>
    match Entries.get? discriminator fields with
    | none => some (.missingField discriminator)
    | some (.literal type) =>
      match type.values with
      | [only] => if only.toKey = tag then none else some (.otherLiteral discriminator tag)
      | _ => some (.otherLiteral discriminator tag)
    | some other => some (.notALiteral discriminator other.kind)
  | other => some (.notAStruct other.kind)

/-- Check variants one after the other, each against its tag and then against the tags before it. -/
def checkVariants (discriminator : String) (seen : List String) :
    List (String × Node) → Except SchemaError Unit
  | [] => if seen.isEmpty then .error (.unsupported .noVariants) else .ok ()
  | (tag, variant) :: rest =>
    match variantFault? discriminator tag variant with
    | some fault => .error (.invalidVariant tag fault)
    | none =>
      if seen.contains tag then .error (.invalidVariant tag .duplicateTag)
      else checkVariants discriminator (tag :: seen) rest

end Node

/-- What the references of a schema stand for. -/
abbrev References := List (Place × Node)

/-- The node that a reference stands for; a reference without an entry stands for null. -/
def References.resolve (references : References) (reference : Place) : Node :=
  (references.lookup reference).getD .null

/-- A schema: its root and what its references stand for. -/
structure Schema where
  /-- The root node. -/
  root : Node
  /-- The table of references. -/
  references : References

end Schemata
