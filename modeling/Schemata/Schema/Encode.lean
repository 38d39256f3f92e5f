import Schemata.Schema.Decode

/-!
# Encoding

Encoding turns a value of a schema into its external form and never fails: a value that a node does
not expect is left as it is, and null stays null. Only references are counted, and after
`defaultMaxDepth` of them a value is left as it is, so encoding ends on every schema. A union
encodes with the first member that accepts its own result.
-/

namespace Schemata

/-- Encoding a value by a node. -/
abbrev Encoder := Node → Value → Value

/-- Whether a node decodes a value under the default limit. -/
def accepts (references : References) (node : Node) (value : Value) : Bool :=
  (decodeAt references defaultMaxDepth defaultMaxDepth node value).isOk

/-- Encode null as null, and otherwise go on. -/
def unlessNull (value result : Value) : Value := if value.isNull then .null else result

mutual

/-- Encode by a node: `next` encodes behind one more reference, none where the count is used up. -/
def encodeNode (references : References) (next : Option Encoder) : Encoder
  | .symbol, value =>
    match value with
    | .symbol name => .string name
    | value => value
  | .array _ item _, value =>
    match value with
    | .array items => .array (items.map (encodeNode references next item))
    | value => value
  | .tuple _ elements, value =>
    match value with
    | .array items =>
      if items.length = elements.length then .array (encodeElements references next elements items)
      else .array items
    | value => value
  | .struct _ fields extraKeys, value =>
    match value with
    | .object input =>
      .object (encodeFields references next fields input
        ++ if extraKeys = .include then undeclared fields input else [])
    | value => value
  | .record _ _ item, value =>
    match value with
    | .object input =>
      .object (input.map fun entry ↦ (entry.1, encodeNode references next item entry.2))
    | value => value
  | .union _ members, value =>
    unlessNull value ((encodeMembers references next members value).getD value)
  | .discriminatedUnion _ discriminator variants, value =>
    match value.get? discriminator with
    | some tag => (encodeVariant references next tag.toKey variants value).getD value
    | none => value
  | .optional _ inner _, value => unlessNull value (encodeNode references next inner value)
  | .transform _ inner _ conversion, value =>
    unlessNull value (encodeNode references next inner (conversion.encode value))
  | .lazy _ reference, value =>
    unlessNull value <|
      match next with
      | none => value
      | some encode => encode (references.resolve reference) value
  | _, value => value

/-- Encode the elements of a tuple, position by position. -/
def encodeElements (references : References) (next : Option Encoder) :
    List Node → List Value → List Value
  | node :: nodes, item :: rest =>
    encodeNode references next node item :: encodeElements references next nodes rest
  | _, _ => []

/-- Encode the fields of a struct that are present, in order of declaration. -/
def encodeFields (references : References) (next : Option Encoder) :
    List (String × Node) → Entries Value → List (String × Value)
  | [], _ => []
  | (name, node) :: rest, input =>
    match Entries.get? name input with
    | some value =>
      (name, encodeNode references next node value) :: encodeFields references next rest input
    | none => encodeFields references next rest input

/-- The encoding by the first member that accepts its own result. -/
def encodeMembers (references : References) (next : Option Encoder) :
    List Node → Value → Option Value
  | [], _ => none
  | member :: rest, value =>
    let encoded := encodeNode references next member value
    if accepts references member encoded then some encoded
    else encodeMembers references next rest value

/-- The encoding by the variant under a tag. -/
def encodeVariant (references : References) (next : Option Encoder) (tag : String) :
    List (String × Node) → Value → Option Value
  | [], _ => none
  | (t, variant) :: rest, value =>
    if t = tag then some (encodeNode references next variant value)
    else encodeVariant references next tag rest value

end

/-- Null stays null, whatever the node. -/
theorem encodeNode_null (references : References) (next : Option Encoder) (node : Node) :
    encodeNode references next node .null = .null := by
  cases node <;> simp [encodeNode, unlessNull, Value.isNull, Value.get?]

/-- Encode with `hops` references to go. -/
def encodeAt (references : References) : (hops : Nat) → Encoder
  | 0, node, value => encodeNode references none node value
  | hops + 1, node, value => encodeNode references (some (encodeAt references hops)) node value

/-- The external form of a value. -/
def Schema.encode (schema : Schema) (value : Value) : Value :=
  encodeAt schema.references defaultMaxDepth schema.root value

end Schemata
