import Schemata.Schema.Check

/-!
# Decoding

Decoding turns an untrusted value into a validated one, or says why not and where. Arrays, tuples,
structs, records and references each go one level deeper, and levels are limited: `decodeAt n`
decodes with `n` levels to go by handing `decodeNode` the decoder for `n - 1`. Within a level the
recursion is on the node, so decoding ends on every schema, cyclic ones included.

Null is refused by every node but `null` and those that leave the decision to another: optional,
union, transform and reference.
-/

namespace Schemata

/-- Decoding a value against a node. -/
abbrev Decoder := Node → Value → Except DecodeError Value

/-- Add a step to the path of an error. -/
def located {α : Type} (segment : PathSegment) : Except DecodeError α → Except DecodeError α
  | .ok a => .ok a
  | .error error => .error (.within segment error)

/-- Refuse null, and otherwise go on. -/
def nonNull {α : Type} (value : Value) (result : Except DecodeError α) : Except DecodeError α :=
  if value.isNull then .error .requiredValue else result

/-- The error for a value of the wrong kind. -/
def mismatch {α : Type} (expected : ValueKind) (value : Value) : Except DecodeError α :=
  .error (.typeMismatch expected value.kind)

/-- Fail with a violation, if there is one. -/
def unlessBroken {α : Type} (violation : Option Violation) (result : Except DecodeError α) :
    Except DecodeError α :=
  match violation with
  | some violation => .error (.constraint violation)
  | none => result

/-- Go one level deeper, which fails where no level is left. -/
def deeper {α : Type} (limit : Nat) (below : Option Decoder)
    (run : Decoder → Except DecodeError α) : Except DecodeError α :=
  match below with
  | none => .error (.depthExceeded limit)
  | some decoder => run decoder

/-- Decode a string. -/
def StringType.decode (type : StringType) : Value → Except DecodeError Value
  | .string text => unlessBroken (type.violation? text) (.ok (.string text))
  | value => mismatch .string value

/-- Decode a number. -/
def NumericConstraints.decode (c : NumericConstraints) : Value → Except DecodeError Value
  | .number n => unlessBroken (c.violation? n) (.ok (.number n))
  | value => mismatch .number value

/-- Decode a number with an integral value, which may be in float form. -/
def NumericConstraints.decodeInteger (c : NumericConstraints) : Value → Except DecodeError Value
  | .number n =>
    if n.isIntegral then unlessBroken (c.violation? n) (.ok (.number n))
    else mismatch .integer (.number n)
  | value => mismatch .integer value

/-- Decode a literal: the value is kept as it is. -/
def LiteralType.decode (type : LiteralType) (value : Value) : Except DecodeError Value :=
  if type.values.any (fun allowed ↦ allowed.looselyEq value) then .ok value
  else .error (.constraint (.notListed type.values))

/-- Decode the items of an array, counting from `i`. -/
def decodeItems (decode : Value → Except DecodeError Value) (i : Nat) :
    List Value → Except DecodeError (List Value)
  | [] => .ok []
  | item :: rest => do
    let decoded ← located (.index i) (decode item)
    let items ← decodeItems decode (i + 1) rest
    return decoded :: items

/-- Decode the elements of a tuple, counting from `i`; the shorter list ends both. -/
def decodeElements (decoder : Decoder) (i : Nat) :
    List Node → List Value → Except DecodeError (List Value)
  | node :: nodes, item :: rest => do
    let decoded ← located (.position i) (decoder node item)
    let items ← decodeElements decoder (i + 1) nodes rest
    return decoded :: items
  | _, _ => .ok []

/-- Decode the fields of a struct, in order of declaration. A field that is absent is left out or
gets its default, and must be present unless it is optional. -/
def decodeFields (decoder : Decoder) (input : Entries Value) :
    List (String × Node) → Except DecodeError (List (String × Value))
  | [] => .ok []
  | (name, node) :: rest =>
    match Entries.get? name input with
    | some raw => do
      let decoded ← located (.field name) (decoder node raw)
      let fields ← decodeFields decoder input rest
      return (name, decoded) :: fields
    | none =>
      match node with
      | .optional _ _ (some default) => do
        let fields ← decodeFields decoder input rest
        return (name, default) :: fields
      | .optional _ _ none => decodeFields decoder input rest
      | _ => located (.field name) (.error .requiredValue)

/-- The entries of an object that a struct does not declare. -/
def undeclared {α : Type} (fields : Entries α) (input : Entries Value) : Entries Value :=
  input.filter fun entry ↦ !Entries.contains entry.1 fields

/-- Decode the entries of a record: each key as a string, then its value. -/
def decodeEntries (decoder : Decoder) (key value : Node) :
    List (String × Value) → Except DecodeError (List (String × Value))
  | [] => .ok []
  | (k, v) :: rest => do
    let decodedKey ← located (.key k) (decoder key (.string k))
    let decoded ← located (.key k) (decoder value v)
    let entries ← decodeEntries decoder key value rest
    return (decodedKey.toKey, decoded) :: entries

/-- Decode an array: its constraints before its items. -/
def decodeArray (limit : Nat) (below : Option Decoder) (item : Node) (c : ArrayConstraints) :
    Value → Except DecodeError Value
  | .array items =>
    unlessBroken (c.violation? items) <|
      deeper limit below fun decoder ↦ (decodeItems (decoder item) 0 items).map .array
  | value => mismatch .array value

/-- Decode a tuple: its length before its elements. -/
def decodeTuple (limit : Nat) (below : Option Decoder) (elements : List Node) :
    Value → Except DecodeError Value
  | .array items =>
    if items.length = elements.length then
      deeper limit below fun decoder ↦ (decodeElements decoder 0 elements items).map .array
    else .error (.constraint (.tupleLength elements.length items.length))
  | value => mismatch .array value

/-- Decode a struct: undeclared keys before its fields. -/
def decodeStruct (limit : Nat) (below : Option Decoder) (fields : List (String × Node))
    (extraKeys : ExtraKeys) : Value → Except DecodeError Value
  | .object input =>
    let extra := undeclared fields input
    if extraKeys = .reject && !extra.isEmpty then .error (.unexpectedKeys (Entries.keys extra))
    else
      deeper limit below fun decoder ↦ do
        let decoded ← decodeFields decoder input fields
        return .object (decoded ++ if extraKeys = .include then extra else [])
  | value => mismatch .object value

/-- Decode a record; keys that decode to one text are merged. -/
def decodeRecord (limit : Nat) (below : Option Decoder) (key value : Node) :
    Value → Except DecodeError Value
  | .object input =>
    deeper limit below fun decoder ↦
      (decodeEntries decoder key value input).map fun entries ↦ .object (Entries.ofList entries)
  | v => mismatch .object v

mutual

/-- Decode with one level's decoder: `below` decodes one level deeper, none where no level is left.
-/
def decodeNode (references : References) (limit : Nat) (below : Option Decoder) : Decoder
  | .string type, value => nonNull value (type.decode value)
  | .number c, value => nonNull value (c.decode value)
  | .integer c, value => nonNull value (c.decodeInteger value)
  | .boolean, value =>
    nonNull value <|
      match value with
      | .bool b => .ok (.bool b)
      | value => mismatch .boolean value
  | .null, value =>
    match value with
    | .null => .ok .null
    | value => mismatch .null value
  | .symbol, value =>
    nonNull value <|
      match value with
      | .string name => .ok (.symbol name)
      | .symbol name => .ok (.symbol name)
      | value => mismatch .symbol value
  | .literal type, value => nonNull value (type.decode value)
  | .array _ item c, value => nonNull value (decodeArray limit below item c value)
  | .tuple _ elements, value => nonNull value (decodeTuple limit below elements value)
  | .struct _ fields extraKeys, value =>
    nonNull value (decodeStruct limit below fields extraKeys value)
  | .record _ key item, value => nonNull value (decodeRecord limit below key item value)
  | .union _ members, value =>
    match decodeMembers references limit below members value with
    | .ok decoded => .ok decoded
    | .error failures => .error (.unionMismatch failures)
  | .discriminatedUnion _ discriminator variants, value =>
    nonNull value <|
      match value with
      | .object input =>
        match Entries.get? discriminator input with
        | none => .error (.missingDiscriminator discriminator)
        | some tag =>
          match decodeVariant references limit below tag.toKey variants (.object input) with
          | some result => result
          | none =>
            .error (.unknownDiscriminator discriminator tag.toKey (Entries.keys variants))
      | value => mismatch .object value
  | .optional _ inner default, value =>
    if value.isNull then .ok (default.getD .null) else decodeNode references limit below inner value
  | .transform _ inner _ conversion, value =>
    (decodeNode references limit below inner value).map conversion.decode
  | .lazy _ reference, value =>
    deeper limit below fun decoder ↦ decoder (references.resolve reference) value

/-- The result of the first member that accepts, or the failures of all. -/
def decodeMembers (references : References) (limit : Nat) (below : Option Decoder) :
    List Node → Value → Except (List DecodeError) Value
  | [], _ => .error []
  | member :: rest, value =>
    match decodeNode references limit below member value with
    | .ok decoded => .ok decoded
    | .error failure =>
      match decodeMembers references limit below rest value with
      | .ok decoded => .ok decoded
      | .error failures => .error (failure :: failures)

/-- The result of the variant under a tag, none where there is no such variant. -/
def decodeVariant (references : References) (limit : Nat) (below : Option Decoder) (tag : String) :
    List (String × Node) → Value → Option (Except DecodeError Value)
  | [], _ => none
  | (t, variant) :: rest, value =>
    if t = tag then some (decodeNode references limit below variant value)
    else decodeVariant references limit below tag rest value

end

/-- Whether a node takes null or leaves it to another. -/
def Node.takesNull : Node → Bool
  | .null => true
  | .union _ _ => true
  | .optional _ _ _ => true
  | .transform _ _ _ _ => true
  | .lazy _ _ => true
  | _ => false

/-- Every other node requires a value. -/
theorem decodeNode_null {node : Node} (refuses : node.takesNull = false) (references : References)
    (limit : Nat) (below : Option Decoder) :
    decodeNode references limit below node .null = .error .requiredValue := by
  cases node with
  | null | union | optional | transform | lazy => cases refuses
  | _ => simp [decodeNode, nonNull, Value.isNull]

/-- Decode with `levels` levels to go; `limit` is the number that errors report. -/
def decodeAt (references : References) (limit : Nat) : (levels : Nat) → Decoder
  | 0, node, value => decodeNode references limit none node value
  | levels + 1, node, value =>
    decodeNode references limit (some (decodeAt references limit levels)) node value

/-- The depth limit where none is given. -/
def defaultMaxDepth : Nat := 256

namespace Schema

/-- Decode an untrusted value with at most `maxDepth` levels. -/
def decode (schema : Schema) (value : Value) (maxDepth : Nat := defaultMaxDepth) :
    Except DecodeError Value :=
  decodeAt schema.references maxDepth maxDepth schema.root value

/-- Check a value without keeping the decoded one. -/
def validate (schema : Schema) (value : Value) : Except DecodeError Unit :=
  (schema.decode value).map fun _ ↦ ()

end Schema

end Schemata
