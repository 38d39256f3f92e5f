import Schemata.JsonSchema.Import

/-!
# Warnings on reading JSON Schema

Where a schema leaves something open and reading assumes it, there is a warning. Warnings come in
reading order, and those before a failure count.
-/

namespace Schemata

namespace JsonSchema

/-- An assumption made on reading a schema. -/
inductive Warning where
  /-- The items of an array are strings. -/
  | stringItems
  /-- The values of an object are strings. -/
  | stringValues
  /-- An alternative has the tag of its position. -/
  | positionalTag (tag : String)

/-- The text of a warning. -/
def Warning.message : Warning → String
  | .stringItems => "array schema without 'items', assuming string items"
  | .stringValues => "'additionalProperties: true' without a schema, assuming string values"
  | .positionalTag tag =>
    s!"oneOf alternative without a discriminator, using positional tag tag={tag}"

/-- The warnings on tags from the `i`th alternative on, up to a tag that stands twice. -/
def tagWarnings (i : Nat) (seen : List String) : List (Option String) → List Warning
  | [] => []
  | tag? :: rest =>
    let tag := tag?.getD (positionalTag i)
    (if tag?.isSome then [] else [.positionalTag tag])
      ++ if seen.contains tag then [] else tagWarnings (i + 1) (tag :: seen) rest

/-- The warnings on alternatives that were read. -/
def alternativeWarnings (alternatives : List Ast) : List Warning :=
  match findTags 0 none alternatives with
  | .ok (some _, tags) => tagWarnings 0 [] tags
  | _ => []

mutual

/-- The warnings on reading a schema. -/
def warnings : Json → List Warning
  | .object members =>
    match planOf members with
    | .error _ => []
    | .ok plan =>
      match plan.form with
      | .oneOf =>
        warningsListUnder "oneOf" members
          ++ (match readListUnder "oneOf" members with
            | .ok alternatives => alternativeWarnings alternatives
            | .error _ => [])
      | .anyOf => warningsListUnder "anyOf" members
      | .leaf _ => []
      | .tuple => warningsListUnder "prefixItems" members
      | .array false _ => [.stringItems]
      | .array true _ => warningsUnder "items" members
      | .record false => [.stringValues]
      | .record true => warningsUnder "additionalProperties" members
      | .struct _ _ => warningsOfFields members
  | _ => []

/-- The warnings on reading the schema under a keyword. -/
def warningsUnder (keyword : String) : List (String × Json) → List Warning
  | [] => []
  | (k, schema) :: rest => if k = keyword then warnings schema else warningsUnder keyword rest

/-- The warnings on reading the schemas under a keyword. -/
def warningsListUnder (keyword : String) : List (String × Json) → List Warning
  | [] => []
  | (k, schemas) :: rest =>
    if k = keyword then
      match schemas with
      | .array items => warningsOfList items
      | _ => []
    else warningsListUnder keyword rest

/-- The warnings on reading the schemas under `properties`. -/
def warningsOfFields : List (String × Json) → List Warning
  | [] => []
  | (k, schemas) :: rest =>
    if k = "properties" then
      match schemas with
      | .object properties => warningsOfProperties properties
      | _ => []
    else warningsOfFields rest

/-- The warnings on reading schemas one after the other. -/
def warningsOfList : List Json → List Warning
  | [] => []
  | schema :: rest =>
    warnings schema ++ if (read schema).isOk then warningsOfList rest else []

/-- The warnings on reading properties one after the other. -/
def warningsOfProperties : List (String × Json) → List Warning
  | [] => []
  | (_, schema) :: rest =>
    warnings schema ++ if (read schema).isOk then warningsOfProperties rest else []

end

end JsonSchema

end Schemata
