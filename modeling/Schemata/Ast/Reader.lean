import Schemata.Ast.Writer

/-!
# Reading descriptions

A description is read from an object with a `_type` member. The order of members does not matter and
unknown ones are passed over, but a known member may not stand twice; under `fields` and `variants`
the last of several entries with one name counts, in the place of the first. Constraint sets may be
absent, and a null default or reference depth is the same as none. The words for policies and
reference kinds may stand as the only key of an object, with nothing under it, and a description
within another may give its kind by its place in the order of kinds.
-/

namespace Schemata

namespace Ast

/-- Read a word: by itself, or as the only key of an object with null or an empty object under it.
-/
def asWord? {α : Type} (ofName? : String → Option α) : Json → Option α
  | .string word => ofName? word
  | .object [(word, .null)] => ofName? word
  | .object [(word, .object [])] => ofName? word
  | _ => none

/-- Read a kind: by its word, or `inside` another description by its place in the order of kinds. -/
def asKind? (inside : Bool) (doc : Json) : Option Kind :=
  match doc.asString? with
  | some word => Kind.ofName? word
  | none => if inside then doc.asCount?.bind fun place ↦ Kind.all[place.toNat]? else none

/-- The kind that the `_type` member names. -/
def kindOf (inside : Bool) (members : Entries Json) : Except DocumentFault Kind := do
  match ← Json.member? "_type" members with
  | some doc =>
    match asKind? inside doc with
    | some kind => return kind
    | none => throw .unknownKind
  | none => throw (.missing "_type")

/-- The constraint set of a node, empty where it is absent. -/
def constraintsOf {α : Type} (read : Json → Except DocumentFault α) (empty : α)
    (members : Entries Json) : Except DocumentFault α := do
  match ← Json.member? "constraints" members with
  | none => return empty
  | some doc => read doc

/-- A value, with repeated keys merged. -/
def asValue? (doc : Json) : Option Value := some (.ofJson doc.normalize)

mutual

/-- Read a description, which may stand `inside` another one. -/
def read (inside : Bool) : Json → Except DocumentFault Ast
  | .object members => do
    match ← kindOf inside members with
    | .string => return .string (← constraintsOf StringConstraints.ofJson {} members)
    | .number => return .number (← constraintsOf NumericConstraints.ofJson {} members)
    | .integer => return .integer (← constraintsOf NumericConstraints.ofJson {} members)
    | .boolean => return .boolean
    | .null => return .null
    | .symbol => return .symbol
    | .literal => return .literal (← Json.requiredMember "values" (Json.asListOf? asValue?) members)
    | .array =>
      let item ← ofMember "item_type" members
      return .array item (← constraintsOf ArrayConstraints.ofJson {} members)
    | .tuple => return .tuple (← ofListMember "elements" members)
    | .struct =>
      let fields ← ofEntriesMember "fields" members
      let required ← Json.memberOr "required" (Json.asListOf? Json.asString?) [] members
      let extraKeys ← Json.memberOr "extra_keys" (asWord? ExtraKeys.ofName?) .reject members
      return .struct fields required extraKeys
    | .record =>
      let key ← ofMember "key_type" members
      let value ← ofMember "value_type" members
      return .record key value
    | .union => return .union (← ofListMember "members" members)
    | .discriminatedUnion =>
      let discriminator ← Json.requiredMember "discriminator" Json.asString? members
      let variants ← ofEntriesMember "variants" members
      return .discriminatedUnion discriminator variants
    | .optional =>
      let inner ← ofMember "inner_type" members
      let default ← Json.optionalMember "default_value" asValue? members
      return .optional inner default
    | .transform =>
      let inner ← ofMember "inner_type" members
      let target ← Json.requiredMember "target" Json.asString? members
      return .transform inner target
    | .lazy =>
      let name ← Json.requiredMember "name" Json.asString? members
      let refKind ← Json.requiredMember "ref_type" (asWord? Kind.ofName?) members
      let refDepth ← Json.optionalMember "ref_depth" Json.asCount? members
      return .lazy name refKind (refDepth.map UInt64.toNat)
  | _ => .error .notAnObject

/-- Read the description under `key`. -/
def ofMember (key : String) : List (String × Json) → Except DocumentFault Ast
  | [] => .error (.missing key)
  | (k, doc) :: rest =>
    if k = key then (if Entries.contains key rest then .error (.repeated key) else read true doc)
    else ofMember key rest

/-- Read the list of descriptions under `key`. -/
def ofListMember (key : String) : List (String × Json) → Except DocumentFault (List Ast)
  | [] => .error (.missing key)
  | (k, doc) :: rest =>
    if k = key then
      if Entries.contains key rest then .error (.repeated key)
      else
        match doc with
        | .array items => ofList items
        | _ => .error (.malformed key)
    else ofListMember key rest

/-- Read the named descriptions under `key`. -/
def ofEntriesMember (key : String) : List (String × Json) → Except DocumentFault (Entries Ast)
  | [] => .error (.missing key)
  | (k, doc) :: rest =>
    if k = key then
      if Entries.contains key rest then .error (.repeated key)
      else
        match doc with
        | .object members => (ofEntries members).map Entries.ofList
        | _ => .error (.malformed key)
    else ofEntriesMember key rest

/-- Read a list of descriptions. -/
def ofList : List Json → Except DocumentFault (List Ast)
  | [] => .ok []
  | doc :: rest => do
    let ast ← read true doc
    let asts ← ofList rest
    return ast :: asts

/-- Read named descriptions. -/
def ofEntries : List (String × Json) → Except DocumentFault (List (String × Ast))
  | [] => .ok []
  | (name, doc) :: rest => do
    let ast ← read true doc
    let entries ← ofEntries rest
    return (name, ast) :: entries

end

/-- Read a description. -/
def ofJson (doc : Json) : Except DocumentFault Ast := read false doc

/-- Read a description from JSON text. -/
def parse (text : String) : Except DocumentFault Ast :=
  match Json.parseRaw text with
  | .ok doc => ofJson doc
  | .error fault => .error (.text fault)

end Ast

end Schemata
