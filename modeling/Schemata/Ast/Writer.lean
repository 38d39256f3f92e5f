import Schemata.Ast.Basic

/-!
# Writing descriptions

A description is written as an object whose `_type` member names its kind and stands first; the
other members follow in a fixed order. Constraint sets are always written, a default, a reference
depth and a policy other than `reject` where there is one.
-/

namespace Schemata

namespace Ast

/-- An object that describes a node of a kind. -/
def nodeJson (kind : Kind) (members : List (String × Json)) : Json :=
  .object (("_type", .string kind.name) :: members)

mutual

/-- The document of a description. -/
def toJson : Ast → Json
  | .string c => nodeJson .string [("constraints", c.toJson)]
  | .number c => nodeJson .number [("constraints", c.toJson)]
  | .integer c => nodeJson .integer [("constraints", c.toJson)]
  | .boolean => nodeJson .boolean []
  | .null => nodeJson .null []
  | .symbol => nodeJson .symbol []
  | .literal values => nodeJson .literal [("values", .array (Value.toJsonItems values))]
  | .array item c => nodeJson .array [("item_type", item.toJson), ("constraints", c.toJson)]
  | .tuple elements => nodeJson .tuple [("elements", .array (toJsonList elements))]
  | .struct fields required extraKeys =>
    nodeJson .struct ([("fields", .object (toJsonEntries fields)),
      ("required", .array (required.map Json.string))]
        ++ if extraKeys = .reject then [] else [("extra_keys", .string extraKeys.name)])
  | .record key value => nodeJson .record [("key_type", key.toJson), ("value_type", value.toJson)]
  | .union members => nodeJson .union [("members", .array (toJsonList members))]
  | .discriminatedUnion discriminator variants =>
    nodeJson .discriminatedUnion
      [("discriminator", .string discriminator), ("variants", .object (toJsonEntries variants))]
  | .optional inner default =>
    nodeJson .optional (("inner_type", inner.toJson)
      :: Json.memberOf "default_value" Value.toJson default)
  | .transform inner target =>
    nodeJson .transform [("inner_type", inner.toJson), ("target", .string target)]
  | .lazy name refKind refDepth =>
    nodeJson .lazy ([("name", .string name), ("ref_type", .string refKind.name)]
      ++ Json.memberOf "ref_depth" (fun depth ↦ Json.ofCount (UInt64.ofNat depth)) refDepth)

/-- The documents of some descriptions. -/
def toJsonList : List Ast → List Json
  | [] => []
  | ast :: rest => ast.toJson :: toJsonList rest

/-- The documents of some descriptions under their names. -/
def toJsonEntries : List (String × Ast) → List (String × Json)
  | [] => []
  | (name, ast) :: rest => (name, ast.toJson) :: toJsonEntries rest

end

end Ast

end Schemata
