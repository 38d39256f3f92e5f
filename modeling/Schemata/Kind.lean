/-!
# Kinds of schema node

The sixteen kinds, the words for them, and a struct's policy for undeclared keys. `ofName?` accepts
exactly the words that `name` writes.
-/

namespace Schemata

/-- The kind of a schema node. -/
inductive Kind where
  /-- Strings. -/
  | string
  /-- Numbers. -/
  | number
  /-- Numbers with an integral value. -/
  | integer
  /-- Truth values. -/
  | boolean
  /-- The null value. -/
  | null
  /-- Symbolic names. -/
  | symbol
  /-- A fixed set of scalars. -/
  | literal
  /-- Sequences of one item type. -/
  | array
  /-- Sequences of fixed length. -/
  | tuple
  /-- Objects with declared fields. -/
  | struct
  /-- Objects with arbitrary keys. -/
  | record
  /-- The first member that accepts. -/
  | union
  /-- The variant named by a tag field. -/
  | discriminatedUnion
  /-- A value that may be absent. -/
  | optional
  /-- Another type followed by a conversion. -/
  | transform
  /-- A deferred reference. -/
  | lazy
  deriving DecidableEq

namespace Kind

/-- A kind without other nodes below it, and not a reference to one. -/
def isLeaf : Kind → Bool
  | .string => true
  | .number => true
  | .integer => true
  | .boolean => true
  | .null => true
  | .symbol => true
  | .literal => true
  | _ => false

/-- The word for a kind. -/
def name : Kind → String
  | .string => "string"
  | .number => "number"
  | .integer => "integer"
  | .boolean => "boolean"
  | .null => "null"
  | .symbol => "symbol"
  | .literal => "literal"
  | .array => "array"
  | .tuple => "tuple"
  | .struct => "struct"
  | .record => "record"
  | .union => "union"
  | .discriminatedUnion => "discriminated_union"
  | .optional => "optional"
  | .transform => "transform"
  | .lazy => "lazy"

/-- Every kind, in order of declaration. -/
def all : List Kind :=
  [.string, .number, .integer, .boolean, .null, .symbol, .literal, .array, .tuple, .struct, .record,
    .union, .discriminatedUnion, .optional, .transform, .lazy]

/-- The kind that a word names. -/
def ofName? (word : String) : Option Kind := all.find? (fun kind ↦ kind.name == word)

theorem ofName?_name (kind : Kind) : ofName? kind.name = some kind := by
  cases kind <;> rfl

theorem name_of_ofName? {word : String} {kind : Kind} (h : ofName? word = some kind) :
    kind.name = word := by
  simpa using List.find?_some h

end Kind

/-- What a struct does with keys it does not declare. -/
inductive ExtraKeys where
  /-- Fail. -/
  | reject
  /-- Drop them from the result. -/
  | allow
  /-- Copy them into the result as they are. -/
  | include
  deriving DecidableEq

namespace ExtraKeys

/-- The word for a policy. -/
def name : ExtraKeys → String
  | .reject => "reject"
  | .allow => "allow"
  | .include => "include"

/-- The policy that a word names. -/
def ofName? : String → Option ExtraKeys
  | "reject" => some .reject
  | "allow" => some .allow
  | "include" => some .include
  | _ => none

theorem ofName?_name (policy : ExtraKeys) : ofName? policy.name = some policy := by
  cases policy <;> rfl

end ExtraKeys

end Schemata
