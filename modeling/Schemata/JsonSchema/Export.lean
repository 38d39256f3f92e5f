import Schemata.Ast.Basic

/-!
# Writing JSON Schema

Every description has one JSON Schema (draft 2020-12). What JSON Schema has no words for is left
out: a record's key type, a transform, the name of a discriminator, a struct that keeps undeclared
keys rather than dropping them. An array of exact length gets equal limits, a stub the primitive
type of its kind with a remark.
-/

namespace Schemata

namespace JsonSchema

/-- The metadata of a document. -/
structure Metadata where
  /-- The identifier. -/
  id : Option String := none
  /-- The title. -/
  title : Option String := none
  /-- The description. -/
  description : Option String := none

/-- The dialect that a document with an identifier declares. -/
def dialect : String := "https://json-schema.org/draft/2020-12/schema"

/-- The members that metadata puts in front. -/
def Metadata.toMembers (metadata : Metadata) : Entries Json :=
  (match metadata.id with
    | none => []
    | some id => [("$schema", .string dialect), ("$id", .string id)])
  ++ Json.memberOf "title" Json.string metadata.title
  ++ Json.memberOf "description" Json.string metadata.description

/-- The members of a schema that names a type. -/
def typed (type : String) (members : List (String × Json)) : Entries Json :=
  ("type", .string type) :: members

/-- The schema of a string. -/
def stringMembers (c : StringConstraints) : Entries Json :=
  typed "string" (Json.memberOf "minLength" Json.ofCount c.min
    ++ Json.memberOf "maxLength" Json.ofCount c.max ++ Json.memberOf "pattern" Json.string c.format)

/-- The schema of a number. -/
def numericMembers (type : String) (c : NumericConstraints) : Entries Json :=
  typed type (Json.memberOf "minimum" Json.number c.min ++ Json.memberOf "maximum" Json.number c.max
    ++ Json.memberOf "exclusiveMinimum" Json.number c.greaterThan
    ++ Json.memberOf "exclusiveMaximum" Json.number c.lessThan
    ++ Json.memberOf "multipleOf" Json.number c.multipleOf)

/-- The schema of a literal: one value is a constant, any other count an enumeration. -/
def literalMembers : List Value → Entries Json
  | [value] => [("const", value.toJson)]
  | values => [("enum", .array (Value.toJsonItems values))]

/-- The schema of an array; an exact length is both limits. -/
def arrayMembers (item : Json) (c : ArrayConstraints) : Entries Json :=
  typed "array" ([("items", item)]
    ++ Json.memberOf "minItems" Json.ofCount (c.length <|> c.min)
    ++ Json.memberOf "maxItems" Json.ofCount (c.length <|> c.max)
    ++ if c.unique then [("uniqueItems", .bool true)] else [])

/-- The schema of a tuple. -/
def tupleMembers (elements : List Json) : Entries Json :=
  let count := Json.ofCount (UInt64.ofNat elements.length)
  typed "array" [("prefixItems", .array elements), ("minItems", count), ("maxItems", count)]

/-- The schema of a struct. -/
def structMembers (properties : List (String × Json)) (required : List String)
    (extraKeys : ExtraKeys) : Entries Json :=
  typed "object" [("properties", .object properties),
    ("required", .array (required.map Json.string)),
    ("additionalProperties", .bool (extraKeys != .reject))]

/-- Whether a schema is the schema of null. -/
def isNullSchema : Json → Bool
  | .object [(key, .string type)] => key == "type" && type == "null"
  | _ => false

/-- Widen the type of a schema by null, if it names one type. -/
def nullable? : Json → Option (Entries Json)
  | .object members =>
    match Entries.get? "type" members with
    | some (.string type) =>
      some (Entries.insert "type" (.array [.string type, .string "null"]) members)
    | _ => none
  | _ => none

/-- The schema of a union: a type or null, where two members are so, and else alternatives. -/
def unionMembers (members : List Json) : Entries Json :=
  let other := match members with
    | [a, b] =>
      if isNullSchema a && !isNullSchema b then nullable? b
      else if isNullSchema b && !isNullSchema a then nullable? a
      else none
    | _ => none
  other.getD [("anyOf", .array members)]

/-- The JSON Schema type of a kind of node, where there is a single one. -/
def typeName? : Kind → Option String
  | .string | .symbol => some "string"
  | .number => some "number"
  | .integer => some "integer"
  | .boolean => some "boolean"
  | .null => some "null"
  | .array | .tuple => some "array"
  | .struct | .record | .discriminatedUnion => some "object"
  | .literal | .union | .optional | .transform | .lazy => none

/-- The schema of a stub. -/
def stubMembers (name : String) (kind : Kind) : Entries Json :=
  Json.memberOf "type" Json.string (typeName? kind)
    ++ [("description", .string s!"Recursive reference to {name}")]

/-- Add a default to a schema. -/
def withDefault (default : Option Value) (members : Entries Json) : Entries Json :=
  match default with
  | none => members
  | some value => Entries.insert "default" value.toJson members

mutual

/-- The members of the schema of a description. -/
def membersOf : Ast → Entries Json
  | .string c => stringMembers c
  | .number c => numericMembers "number" c
  | .integer c => numericMembers "integer" c
  | .boolean => typed "boolean" []
  | .null => typed "null" []
  | .symbol => typed "string" []
  | .literal values => literalMembers values
  | .array item c => arrayMembers (.object (membersOf item)) c
  | .tuple elements => tupleMembers (schemasOf elements)
  | .struct fields required extraKeys => structMembers (propertiesOf fields) required extraKeys
  | .record _ value => typed "object" [("additionalProperties", .object (membersOf value))]
  | .union members => unionMembers (schemasOf members)
  | .discriminatedUnion _ variants => [("oneOf", .array (variantSchemas variants))]
  | .optional inner default => withDefault default (membersOf inner)
  | .transform inner _ => membersOf inner
  | .lazy name refKind _ => stubMembers name refKind

/-- The schemas of some descriptions. -/
def schemasOf : List Ast → List Json
  | [] => []
  | ast :: rest => .object (membersOf ast) :: schemasOf rest

/-- The schemas of some descriptions under their names. -/
def propertiesOf : List (String × Ast) → List (String × Json)
  | [] => []
  | (name, ast) :: rest => (name, .object (membersOf ast)) :: propertiesOf rest

/-- The schemas of some descriptions without their names. -/
def variantSchemas : List (String × Ast) → List Json
  | [] => []
  | (_, ast) :: rest => .object (membersOf ast) :: variantSchemas rest

end

end JsonSchema

/-- The JSON Schema document of a description. Metadata stands in front; where the schema has a
member of the same name, its value remains. -/
def Ast.toJsonSchema (ast : Ast) (metadata : JsonSchema.Metadata := {}) : Json :=
  .object ((JsonSchema.membersOf ast).foldl (fun acc m ↦ Entries.insert m.1 m.2 acc)
    metadata.toMembers)

end Schemata
