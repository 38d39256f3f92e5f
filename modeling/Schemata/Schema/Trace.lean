import Schemata.Schema.Decode

/-!
# References that a decode looks up

While definitions are still being made, a reference that is looked up before its definition exists
stands for null from then on. `traceAt` lists the references that `decodeAt` looks up: it walks the
same way and stops where decoding stops, at the first failing child of a sequence or object and at
the first member of a union that accepts.
-/

namespace Schemata

/-- The references that decoding a value against a node looks up, in order. -/
abbrev Tracer := Node → Value → List Place

/-- What decoding does one level deeper, and what it looks up there. -/
structure Level where
  /-- The decoder. -/
  decode : Decoder
  /-- The references that the decoder looks up. -/
  trace : Tracer

namespace Level

/-- Trace pairs of node and value up to the first that fails. -/
def tracePairs (level : Level) : List (Node × Value) → List Place
  | [] => []
  | (node, value) :: rest =>
    level.trace node value
      ++ if (level.decode node value).isOk then level.tracePairs rest else []

/-- The pairs that decoding the fields of a struct visits: an absent field that must be present ends
them. -/
def fieldPairs (input : Entries Value) : List (String × Node) → List (Node × Value)
  | [] => []
  | (name, node) :: rest =>
    match Entries.get? name input with
    | some raw => (node, raw) :: fieldPairs input rest
    | none => if node.isOptional then fieldPairs input rest else []

/-- The pairs that decoding the entries of a record visits. -/
def entryPairs (key value : Node) (entries : Entries Value) : List (Node × Value) :=
  entries.flatMap fun entry ↦ [(key, .string entry.1), (value, entry.2)]

end Level

mutual

/-- Trace a node: `below` is the level underneath, none where no level is left. -/
def traceNode (references : References) (limit : Nat) (below : Option Level) : Tracer
  | .array _ item c, .array items =>
    match c.violation? items, below with
    | none, some level => level.tracePairs (items.map fun v ↦ (item, v))
    | _, _ => []
  | .tuple _ elements, .array items =>
    match below with
    | some level =>
      if items.length = elements.length then level.tracePairs (elements.zip items) else []
    | none => []
  | .struct _ fields extraKeys, .object input =>
    match below with
    | some level =>
      if extraKeys = .reject && !(undeclared fields input).isEmpty then []
      else level.tracePairs (Level.fieldPairs input fields)
    | none => []
  | .record _ key item, .object input =>
    match below with
    | some level => level.tracePairs (Level.entryPairs key item input)
    | none => []
  | .union _ members, value => traceMembers references limit below members value
  | .discriminatedUnion _ discriminator variants, .object input =>
    match Entries.get? discriminator input with
    | some tag => traceVariant references limit below tag.toKey variants (.object input)
    | none => []
  | .optional _ inner _, value =>
    if value.isNull then [] else traceNode references limit below inner value
  | .transform _ inner _ _, value => traceNode references limit below inner value
  | .lazy _ reference, value =>
    match below with
    | some level => reference :: level.trace (references.resolve reference) value
    | none => []
  | _, _ => []

/-- Trace the members of a union up to the first that accepts. -/
def traceMembers (references : References) (limit : Nat) (below : Option Level) :
    List Node → Value → List Place
  | [], _ => []
  | member :: rest, value =>
    traceNode references limit below member value
      ++ if (decodeNode references limit (below.map Level.decode) member value).isOk then []
        else traceMembers references limit below rest value

/-- Trace the variant under a tag. -/
def traceVariant (references : References) (limit : Nat) (below : Option Level) (tag : String) :
    List (String × Node) → Value → List Place
  | [], _ => []
  | (t, variant) :: rest, value =>
    if t = tag then traceNode references limit below variant value
    else traceVariant references limit below tag rest value

end

/-- A leaf is decoded without a look at any reference. -/
theorem traceNode_leaf {node : Node} (leaf : node.kind.isLeaf = true) (references : References)
    (limit : Nat) (below : Option Level) (value : Value) :
    traceNode references limit below node value = [] := by
  cases node with
  | string | number | integer | boolean | null | symbol | literal => simp [traceNode]
  | _ => cases leaf

/-- Trace with `levels` levels to go. -/
def traceAt (references : References) (limit : Nat) : (levels : Nat) → Tracer
  | 0, node, value => traceNode references limit none node value
  | levels + 1, node, value =>
    traceNode references limit
      (some ⟨decodeAt references limit levels, traceAt references limit levels⟩) node value

end Schemata
