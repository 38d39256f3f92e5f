import Schemata.Schema.Encode

/-!
# Decoding and encoding by plain recursion

The engine without a measure: each call counts the levels above it and goes on to whatever it has to
decode or encode next, a reference included, whether or not that is smaller than what it came from.
So many calls may be nested, and the result is none where a run needs more. What is decided without
another call is decided as `decodeNode` and `encodeNode` decide it.
-/

namespace Schemata

/-- Decode the items of an array, counting from `i`. -/
def decodeItemsBy (decode : Value → Option (Except DecodeError Value)) (i : Nat) :
    List Value → Option (Except DecodeError (List Value))
  | [] => return .ok []
  | value :: rest => do
    match located (.index i) (← decode value) with
    | .error error => return .error error
    | .ok decoded => return (← decodeItemsBy decode (i + 1) rest).map (decoded :: ·)

/-- Decode the elements of a tuple, counting from `i`; the shorter list ends both. -/
def decodeElementsBy (decode : Node → Value → Option (Except DecodeError Value)) (i : Nat) :
    List Node → List Value → Option (Except DecodeError (List Value))
  | node :: nodes, value :: rest => do
    match located (.position i) (← decode node value) with
    | .error error => return .error error
    | .ok decoded => return (← decodeElementsBy decode (i + 1) nodes rest).map (decoded :: ·)
  | _, _ => return .ok []

/-- Decode the fields of a struct, in order of declaration. -/
def decodeFieldsBy (decode : Node → Value → Option (Except DecodeError Value))
    (input : Entries Value) :
    List (String × Node) → Option (Except DecodeError (List (String × Value)))
  | [] => return .ok []
  | (name, node) :: rest =>
    match Entries.get? name input with
    | some raw => do
      match located (.field name) (← decode node raw) with
      | .error error => return .error error
      | .ok decoded => return (← decodeFieldsBy decode input rest).map ((name, decoded) :: ·)
    | none =>
      match node with
      | .optional _ _ (some default) =>
        return (← decodeFieldsBy decode input rest).map ((name, default) :: ·)
      | .optional _ _ none => decodeFieldsBy decode input rest
      | _ => return located (.field name) (.error .requiredValue)

/-- Decode the entries of a record: each key as a string, then its value. -/
def decodeEntriesBy (decode : Node → Value → Option (Except DecodeError Value))
    (key item : Node) :
    List (String × Value) → Option (Except DecodeError (List (String × Value)))
  | [] => return .ok []
  | (k, value) :: rest => do
    match located (.key k) (← decode key (.string k)) with
    | .error error => return .error error
    | .ok decodedKey =>
      match located (.key k) (← decode item value) with
      | .error error => return .error error
      | .ok decoded =>
        return (← decodeEntriesBy decode key item rest).map ((decodedKey.toKey, decoded) :: ·)

/-- The result of the first member that accepts, or the failures of all. -/
def decodeMembersBy (decode : Node → Value → Option (Except DecodeError Value)) :
    List Node → Value → Option (Except (List DecodeError) Value)
  | [], _ => return .error []
  | member :: rest, value => do
    match ← decode member value with
    | .ok decoded => return .ok decoded
    | .error failure => return (← decodeMembersBy decode rest value).mapError (failure :: ·)

/-- Go one level deeper, which fails where no level is left. -/
def deeperBy {α : Type} (maxDepth depth : Nat) (run : Option (Except DecodeError α)) :
    Option (Except DecodeError α) :=
  if maxDepth ≤ depth then return .error (.depthExceeded maxDepth) else run

/-- Decode an array: its constraints before its items. -/
def decodeArrayBy (maxDepth depth : Nat) (decode : Value → Option (Except DecodeError Value))
    (c : ArrayConstraints) : Value → Option (Except DecodeError Value)
  | .array items =>
    match c.violation? items with
    | some violation => return .error (.constraint violation)
    | none => deeperBy maxDepth depth do return (← decodeItemsBy decode 0 items).map .array
  | value => return nonNull value (mismatch .array value)

/-- Decode a tuple: its length before its elements. -/
def decodeTupleBy (maxDepth depth : Nat)
    (decode : Node → Value → Option (Except DecodeError Value)) (elements : List Node) :
    Value → Option (Except DecodeError Value)
  | .array items =>
    if items.length = elements.length then
      deeperBy maxDepth depth do return (← decodeElementsBy decode 0 elements items).map .array
    else return .error (.constraint (.tupleLength elements.length items.length))
  | value => return nonNull value (mismatch .array value)

/-- Decode a struct: undeclared keys before its fields. -/
def decodeStructBy (maxDepth depth : Nat)
    (decode : Node → Value → Option (Except DecodeError Value)) (fields : List (String × Node))
    (extraKeys : ExtraKeys) : Value → Option (Except DecodeError Value)
  | .object input =>
    let extra := undeclared fields input
    if extraKeys = .reject && !extra.isEmpty then
      return .error (.unexpectedKeys (Entries.keys extra))
    else
      deeperBy maxDepth depth do
        return (← decodeFieldsBy decode input fields).map fun decoded ↦
          .object (decoded ++ if extraKeys = .include then extra else [])
  | value => return nonNull value (mismatch .object value)

/-- Decode a record; keys that decode to one text are merged. -/
def decodeRecordBy (maxDepth depth : Nat)
    (decode : Node → Value → Option (Except DecodeError Value)) (key item : Node) :
    Value → Option (Except DecodeError Value)
  | .object input =>
    deeperBy maxDepth depth do
      return (← decodeEntriesBy decode key item input).map fun entries ↦
        .object (Entries.ofList entries)
  | value => return nonNull value (mismatch .object value)

/-- Decode by the first member that accepts. -/
def decodeUnionBy (decode : Node → Value → Option (Except DecodeError Value))
    (members : List Node) (value : Value) : Option (Except DecodeError Value) := do
  match ← decodeMembersBy decode members value with
  | .ok decoded => return .ok decoded
  | .error failures => return .error (.unionMismatch failures)

/-- Decode by the variant under the tag. -/
def decodeTaggedBy (decode : Node → Value → Option (Except DecodeError Value))
    (discriminator : String) (variants : List (String × Node)) :
    Value → Option (Except DecodeError Value)
  | .object input =>
    match Entries.get? discriminator input with
    | none => return .error (.missingDiscriminator discriminator)
    | some tag =>
      match Entries.get? tag.toKey variants with
      | some variant => decode variant (.object input)
      | none =>
        return .error (.unknownDiscriminator discriminator tag.toKey (Entries.keys variants))
  | value => return nonNull value (mismatch .object value)

/-- Decode below `depth` levels, with so many calls nested at most. -/
def decodeFrom (references : References) (maxDepth : Nat) :
    (calls depth : Nat) → Node → Value → Option (Except DecodeError Value)
  | 0, _, _, _ => none
  | calls + 1, depth, .array _ item c, value =>
    decodeArrayBy maxDepth depth (decodeFrom references maxDepth calls (depth + 1) item) c value
  | calls + 1, depth, .tuple _ elements, value =>
    decodeTupleBy maxDepth depth (decodeFrom references maxDepth calls (depth + 1)) elements value
  | calls + 1, depth, .struct _ fields extraKeys, value =>
    decodeStructBy maxDepth depth (decodeFrom references maxDepth calls (depth + 1)) fields
      extraKeys value
  | calls + 1, depth, .record _ key item, value =>
    decodeRecordBy maxDepth depth (decodeFrom references maxDepth calls (depth + 1)) key item value
  | calls + 1, depth, .union _ members, value =>
    decodeUnionBy (decodeFrom references maxDepth calls depth) members value
  | calls + 1, depth, .discriminatedUnion _ discriminator variants, value =>
    decodeTaggedBy (decodeFrom references maxDepth calls depth) discriminator variants value
  | calls + 1, depth, .optional _ inner default, value =>
    if value.isNull then return .ok (default.getD .null)
    else decodeFrom references maxDepth calls depth inner value
  | calls + 1, depth, .transform _ inner _ conversion, value => do
    return (← decodeFrom references maxDepth calls depth inner value).map conversion.decode
  | calls + 1, depth, .lazy _ reference, value =>
    deeperBy maxDepth depth
      (decodeFrom references maxDepth calls (depth + 1) (references.resolve reference) value)
  | _ + 1, _, node, value => return decodeNode references maxDepth none node value

/-- Encode the fields of a struct that are present, in order of declaration. -/
def encodeFieldsBy (encode : Node → Value → Option Value) :
    List (String × Node) → Entries Value → Option (List (String × Value))
  | [], _ => return []
  | (name, node) :: rest, input =>
    match Entries.get? name input with
    | some value => do
      let encoded ← encode node value
      return (name, encoded) :: (← encodeFieldsBy encode rest input)
    | none => encodeFieldsBy encode rest input

/-- The encoding by the first member that accepts its own result. -/
def encodeMembersBy (encode : Node → Value → Option Value)
    (decode : Node → Value → Option (Except DecodeError Value)) :
    List Node → Value → Option (Option Value)
  | [], _ => return none
  | member :: rest, value => do
    let encoded ← encode member value
    match ← decode member encoded with
    | .ok _ => return some encoded
    | .error _ => encodeMembersBy encode decode rest value

/-- Encode the items of an array. -/
def encodeArrayBy (encode : Value → Option Value) : Value → Option Value
  | .array items => return .array (← items.mapM encode)
  | value => return value

/-- Encode the elements of a tuple, position by position. -/
def encodeTupleBy (encode : Node → Value → Option Value) (elements : List Node) :
    Value → Option Value
  | .array items =>
    if items.length = elements.length then
      return .array (← (elements.zip items).mapM fun pair ↦ encode pair.1 pair.2)
    else return .array items
  | value => return value

/-- Encode the fields of a struct and what it includes. -/
def encodeStructBy (encode : Node → Value → Option Value) (fields : List (String × Node))
    (extraKeys : ExtraKeys) : Value → Option Value
  | .object input =>
    return .object ((← encodeFieldsBy encode fields input)
      ++ if extraKeys = .include then undeclared fields input else [])
  | value => return value

/-- Encode the values of a record under their keys. -/
def encodeRecordBy (encode : Value → Option Value) : Value → Option Value
  | .object input =>
    return .object (← input.mapM fun entry ↦ do return (entry.1, ← encode entry.2))
  | value => return value

/-- Encode by the variant under the tag. -/
def encodeTaggedBy (encode : Node → Value → Option Value) (discriminator : String)
    (variants : List (String × Node)) (value : Value) : Option Value :=
  match value.get? discriminator with
  | none => return value
  | some tag =>
    match Entries.get? tag.toKey variants with
    | some variant => encode variant value
    | none => return value

/-- Encode null as null, and otherwise go on. -/
def unlessNullBy (value : Value) (run : Option Value) : Option Value :=
  if value.isNull then return .null else run

/-- Encode behind `depth` references, with so many calls nested at most. A union decodes what its
members encode, from the start. -/
def encodeFrom (references : References) : (calls depth : Nat) → Node → Value → Option Value
  | 0, _, _, _ => none
  | calls + 1, depth, .array _ item _, value =>
    encodeArrayBy (encodeFrom references calls depth item) value
  | calls + 1, depth, .tuple _ elements, value =>
    encodeTupleBy (encodeFrom references calls depth) elements value
  | calls + 1, depth, .struct _ fields extraKeys, value =>
    encodeStructBy (encodeFrom references calls depth) fields extraKeys value
  | calls + 1, depth, .record _ _ item, value =>
    encodeRecordBy (encodeFrom references calls depth item) value
  | calls + 1, depth, .union _ members, value =>
    unlessNullBy value do
      return (← encodeMembersBy (encodeFrom references calls depth)
        (decodeFrom references defaultMaxDepth calls 0) members value).getD value
  | calls + 1, depth, .discriminatedUnion _ discriminator variants, value =>
    encodeTaggedBy (encodeFrom references calls depth) discriminator variants value
  | calls + 1, depth, .optional _ inner _, value =>
    unlessNullBy value (encodeFrom references calls depth inner value)
  | calls + 1, depth, .transform _ inner _ conversion, value =>
    unlessNullBy value (encodeFrom references calls depth inner (conversion.encode value))
  | calls + 1, depth, .lazy _ reference, value =>
    unlessNullBy value <|
      if defaultMaxDepth ≤ depth then return value
      else encodeFrom references calls (depth + 1) (references.resolve reference) value
  | _ + 1, _, node, value => return encodeNode references none node value

namespace Schema

/-- Decode a value by plain recursion, with so many calls nested at most. -/
def runDecode (schema : Schema) (calls : Nat) (value : Value) (maxDepth : Nat := defaultMaxDepth) :
    Option (Except DecodeError Value) :=
  decodeFrom schema.references maxDepth calls 0 schema.root value

/-- Check a value by plain recursion. -/
def runValidate (schema : Schema) (calls : Nat) (value : Value) :
    Option (Except DecodeError Unit) :=
  return (← schema.runDecode calls value).map fun _ ↦ ()

/-- Encode a value by plain recursion. -/
def runEncode (schema : Schema) (calls : Nat) (value : Value) : Option Value :=
  encodeFrom schema.references calls 0 schema.root value

end Schema

end Schemata
