import Schemata.Ast.Basic
import Schemata.Error

/-!
# Reading JSON Schema

The keywords of a schema object are tried in a fixed order and the first one present decides the
form of its node (`planOf`); the children are read afterwards. JSON Schema says more than a
description can, so reading is partial: references, boolean schemas and unknown types are refused.

An object's properties become the fields of a struct, optional unless they are listed as required.
Alternatives under `oneOf` become variants: the discriminator is the first property that holds a
constant, and an alternative without it is given a tag by its position.
-/

namespace Schemata

namespace JsonSchema

/-- The form of a schema's node, before its children are read. -/
inductive Form where
  /-- Alternatives under `oneOf`. -/
  | oneOf
  /-- Alternatives under `anyOf`. -/
  | anyOf
  /-- A node without children. -/
  | leaf (ast : Ast)
  /-- A tuple of the schemas under `prefixItems`. -/
  | tuple
  /-- An array of the schema under `items`, or of strings where there is none. -/
  | array (hasItems : Bool) (constraints : ArrayConstraints)
  /-- A record of the schema under `additionalProperties`, or of strings. -/
  | record (hasSchema : Bool)
  /-- A struct of the schemas under `properties`. -/
  | struct (required : List String) (extraKeys : ExtraKeys)

/-- How a schema is read. -/
structure Plan where
  /-- The form of its node. -/
  form : Form
  /-- Whether null is allowed beside it. -/
  nullable : Bool := false

/-- Fail with a reason. -/
def refuse {α : Type} (reason : Unsupported) : Except SchemaError α := .error (.unsupported reason)

/-- A count under a keyword. -/
def countOf (keyword : String) (members : Entries Json) : Option UInt64 :=
  (Entries.get? keyword members).bind Json.asCount?

/-- A number under a keyword. -/
def numberOf (keyword : String) (members : Entries Json) : Option Number :=
  (Entries.get? keyword members).bind Json.asNumber?

/-- The string constraints of a schema. -/
def stringConstraintsOf (members : Entries Json) : StringConstraints where
  min := countOf "minLength" members
  max := countOf "maxLength" members
  format := (Entries.get? "pattern" members).bind Json.asString?

/-- The numeric constraints of a schema. -/
def numericConstraintsOf (members : Entries Json) : NumericConstraints where
  min := numberOf "minimum" members
  max := numberOf "maximum" members
  greaterThan := numberOf "exclusiveMinimum" members
  lessThan := numberOf "exclusiveMaximum" members
  multipleOf := numberOf "multipleOf" members

/-- The array constraints of a schema. -/
def arrayConstraintsOf (members : Entries Json) : ArrayConstraints where
  min := countOf "minItems" members
  max := countOf "maxItems" members
  unique := ((Entries.get? "uniqueItems" members).bind Json.asBool?).getD false

/-- The names listed as required; what is not a name is passed over. -/
def requiredOf (members : Entries Json) : List String :=
  match Entries.get? "required" members with
  | some (.array names) => names.filterMap Json.asString?
  | _ => []

/-- The policy for undeclared keys: they are refused unless the schema allows some. -/
def extraKeysOf : (additional : Option Json) → ExtraKeys
  | none => .reject
  | some (.bool false) => .reject
  | some _ => .allow

/-- Whether a document is an object. -/
def isObject : Json → Bool
  | .object _ => true
  | _ => false

/-- The form of an object schema. -/
def objectForm (members : Entries Json) : Form :=
  let additional := Entries.get? "additionalProperties" members
  let form := Form.struct (requiredOf members) (extraKeysOf additional)
  if ((Entries.get? "properties" members).map isObject).getD false then form
  else
    match additional with
    | some (.bool true) => .record false
    | some (.object _) => .record true
    | _ => form

/-- The form of a schema that names its type. -/
def typedForm (type : String) (members : Entries Json) : Except SchemaError Form :=
  match type with
  | "string" => .ok (.leaf (.string (stringConstraintsOf members)))
  | "number" => .ok (.leaf (.number (numericConstraintsOf members)))
  | "integer" => .ok (.leaf (.integer (numericConstraintsOf members)))
  | "boolean" => .ok (.leaf .boolean)
  | "null" => .ok (.leaf .null)
  | "array" =>
    if Entries.contains "prefixItems" members then .ok .tuple
    else .ok (.array (Entries.contains "items" members) (arrayConstraintsOf members))
  | "object" => .ok (objectForm members)
  | other => refuse (.typeName other)

/-- The type beside null in a pair of types. -/
def besideNull? : List Json → Option String
  | [.string a, .string b] =>
    if a = "null" then (if b = "null" then none else some b)
    else if b = "null" then some a
    else none
  | _ => none

/-- The form of a schema without alternatives and constants: its type decides. -/
def planByType (members : Entries Json) : Except SchemaError Plan :=
  match Entries.get? "type" members with
  | some (.string type) => return { form := ← typedForm type members }
  | some (.array types) =>
    match besideNull? types with
    | some type => return { form := ← typedForm type members, nullable := true }
    | none => refuse (.typeForm (.array types))
  | some other => refuse (.typeForm other)
  | none => refuse .noType

/-- The form of a schema object. -/
def planOf (members : Entries Json) : Except SchemaError Plan :=
  if Entries.contains "oneOf" members then .ok { form := .oneOf }
  else if Entries.contains "anyOf" members then .ok { form := .anyOf }
  else
    match Entries.get? "const" members, Entries.get? "enum" members with
    | some value, _ => .ok { form := .leaf (.literal [.ofJson value]) }
    | none, some (.array (value :: values)) =>
      .ok { form := .leaf (.literal (Value.ofJsonItems (value :: values))) }
    | none, some _ => refuse .emptyEnum
    | none, none =>
      if Entries.contains "$ref" members then refuse .reference else planByType members

/-- The node of a plan whose form was read. -/
def Plan.finish (plan : Plan) (ast : Ast) : Ast :=
  if plan.nullable then .union [ast, .null] else ast

/-- A field: outside the required names it is optional, with the default of its schema. -/
def fieldOf (required : List String) (name : String) (schema : Json) (ast : Ast) : Ast :=
  if required.contains name then ast
  else .optional ast ((schema.get? "default").map .ofJson)

/-- The struct of some fields; of the required names those remain that are fields. -/
def structOf (required : List String) (extraKeys : ExtraKeys) (fields : Entries Ast) : Ast :=
  .struct fields ((Entries.keys fields).filter required.contains) extraKeys

/-- The first field that holds a single constant, with the key of that constant. -/
def tagOf? : Entries Ast → Option (String × String)
  | [] => none
  | (name, .literal [value]) :: _ => some (name, value.toKey)
  | _ :: rest => tagOf? rest

/-- The discriminator that the alternatives share, and the tag of each that has one. -/
def findTags (i : Nat) (discriminator : Option String) :
    List Ast → Except SchemaError (Option String × List (Option String))
  | [] => .ok (discriminator, [])
  | .struct fields _ _ :: rest =>
    match tagOf? fields with
    | none => do
      let (shared, tags) ← findTags (i + 1) discriminator rest
      return (shared, none :: tags)
    | some (name, tag) => do
      match discriminator with
      | some expected => if expected ≠ name then refuse (.discriminators expected name)
      | none => pure ()
      let (shared, tags) ← findTags (i + 1) (some name) rest
      return (shared, some tag :: tags)
  | _ :: _ => refuse (.alternative i)

/-- The tag of an alternative without one. -/
def positionalTag (i : Nat) : String := s!"variant_{i}"

/-- Give an alternative its tag, in place of what stands there. -/
def withTag (discriminator tag : String) : Ast → Ast
  | .struct fields required extraKeys =>
    .struct (Entries.insert discriminator (.literal [.string tag]) fields)
      (if required.contains discriminator then required else required ++ [discriminator]) extraKeys
  | other => other

/-- The variants of the alternatives from the `i`th on, after those with the tags `seen`. -/
def variantsOf (discriminator : String) (i : Nat) (seen : List String) :
    List Ast → List (Option String) → Except SchemaError (Entries Ast)
  | ast :: asts, tag? :: tags =>
    let tag := tag?.getD (positionalTag i)
    let variant := if tag?.isSome then ast else withTag discriminator tag ast
    if seen.contains tag then .error (.invalidVariant tag .duplicateTag)
    else do
      let rest ← variantsOf discriminator (i + 1) (tag :: seen) asts tags
      return (tag, variant) :: rest
  | _, _ => .ok []

/-- The discriminated union of some alternatives. -/
def unionOfAlternatives (alternatives : List Ast) : Except SchemaError Ast := do
  match ← findTags 0 none alternatives with
  | (none, _) => refuse .noDiscriminator
  | (some discriminator, tags) =>
    return .discriminatedUnion discriminator (← variantsOf discriminator 0 [] alternatives tags)

mutual

/-- Read a schema. -/
def read : Json → Except SchemaError Ast
  | .object members => do
    let plan ← planOf members
    match plan.form with
    | .oneOf => unionOfAlternatives (← readListUnder "oneOf" members)
    | .anyOf => return .union (← readListUnder "anyOf" members)
    | .leaf ast => return plan.finish ast
    | .tuple => return plan.finish (.tuple (← readListUnder "prefixItems" members))
    | .array _ c => return plan.finish (.array (← readUnder "items" members) c)
    | .record true =>
      return plan.finish (.record .plainString (← readUnder "additionalProperties" members))
    | .record false => return plan.finish (.record .plainString .plainString)
    | .struct required extraKeys =>
      return plan.finish (structOf required extraKeys (← readFieldsUnder required members))
  | other => refuse (.notASchemaObject other)

/-- Read the schema under a keyword; absent, it is that of a string. -/
def readUnder (keyword : String) : List (String × Json) → Except SchemaError Ast
  | [] => .ok .plainString
  | (k, schema) :: rest => if k = keyword then read schema else readUnder keyword rest

/-- Read the schemas under a keyword. -/
def readListUnder (keyword : String) : List (String × Json) → Except SchemaError (List Ast)
  | [] => refuse (.notAnArray keyword)
  | (k, schemas) :: rest =>
    if k = keyword then
      match schemas with
      | .array items => readList items
      | _ => refuse (.notAnArray keyword)
    else readListUnder keyword rest

/-- Read the schemas under `properties` as fields; without an object there, there are none. -/
def readFieldsUnder (required : List String) :
    List (String × Json) → Except SchemaError (Entries Ast)
  | [] => .ok []
  | (k, schemas) :: rest =>
    if k = "properties" then
      match schemas with
      | .object properties => readFields required properties
      | _ => .ok []
    else readFieldsUnder required rest

/-- Read schemas one after the other. -/
def readList : List Json → Except SchemaError (List Ast)
  | [] => .ok []
  | schema :: rest => do
    let ast ← read schema
    return ast :: (← readList rest)

/-- Read properties one after the other. -/
def readFields (required : List String) : List (String × Json) → Except SchemaError (Entries Ast)
  | [] => .ok []
  | (name, schema) :: rest => do
    let ast ← read schema
    return (name, fieldOf required name schema ast) :: (← readFields required rest)

end

end JsonSchema

/-- The description of a JSON Schema document. -/
def Ast.ofJsonSchema (schema : Json) : Except SchemaError Ast := JsonSchema.read schema

end Schemata
