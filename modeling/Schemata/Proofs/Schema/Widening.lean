import Schemata.Proofs.Schema.Decoding

/-!
# Wider nodes

A node is wider than another if it accepts every value without symbols that the other accepts, with
as many levels to go (`Node.WidenedBy`). Every kind of node widens with its parts, one lemma each.
Only acceptance is compared: the decoded values may differ.

A mark that a value may be absent means something to the struct that the field stands in. Elsewhere
it accepts null and nothing else besides; `Node.unmarked` takes it away there.
-/

namespace Schemata

/-- An array breaks no constraint if its length and its items meet each of them. -/
theorem ArrayConstraints.violation?_eq_none_iff {c : ArrayConstraints} {items : List Value} :
    c.violation? items = none ↔ (∀ min, c.min = some min → min.toNat ≤ items.length)
      ∧ (∀ max, c.max = some max → items.length ≤ max.toNat)
      ∧ (∀ length, c.length = some length → items.length = length.toNat)
      ∧ (c.unique = true → Value.hasRepeats items = false) := by
  simp [ArrayConstraints.violation?, Option.bind_eq_none_iff]

/-- No item repeats if the items are pairwise not loosely equal. -/
theorem Value.hasRepeats_eq_false_iff {items : List Value} :
    Value.hasRepeats items = false ↔
      items.Pairwise fun item later ↦ later.looselyEq item = false := by
  induction items with
  | nil => simp [hasRepeats]
  | cons item rest ih => simp [hasRepeats, ih]

namespace Node

/-! ### Marks outside structs -/

mutual

/-- The node without the marks that a value may be absent, except where a field of a struct has
one. -/
def unmarked : Node → Node
  | .array place item c => .array place item.unmarked c
  | .tuple place elements => .tuple place (unmarkedList elements)
  | .struct place fields extraKeys => .struct place (unmarkedFields fields) extraKeys
  | .record place key value => .record place key.unmarked value.unmarked
  | .union place members => .union place (unmarkedList members)
  | .discriminatedUnion place discriminator variants =>
    .discriminatedUnion place discriminator (unmarkedFields variants)
  | .optional _ inner _ => inner.unmarked
  | .transform place inner target conversion => .transform place inner.unmarked target conversion
  | node => node

/-- `unmarked` one by one. -/
def unmarkedList : List Node → List Node
  | [] => []
  | node :: rest => node.unmarked :: unmarkedList rest

/-- `unmarked` below the marks of fields. -/
def unmarkedFields : List (String × Node) → List (String × Node)
  | [] => []
  | (name, .optional place inner default) :: rest =>
    (name, .optional place inner.unmarked default) :: unmarkedFields rest
  | (name, node) :: rest => (name, node.unmarked) :: unmarkedFields rest

end

example : (Node.array none (.optional none .boolean none) {}).unmarked = .array none .boolean {} :=
  rfl

/-- A field without the marks below its own. -/
def unmarkedField : Node → Node
  | .optional place inner default => .optional place inner.unmarked default
  | node => node.unmarked

theorem unmarkedList_eq (nodes : List Node) : unmarkedList nodes = nodes.map unmarked := by
  induction nodes with
  | nil => rfl
  | cons node rest ih => rw [unmarkedList, ih, List.map_cons]

theorem unmarkedFields_eq (fields : List (String × Node)) :
    unmarkedFields fields = fields.map fun field ↦ (field.1, field.2.unmarkedField) := by
  induction fields with
  | nil => rfl
  | cons field rest ih =>
    obtain ⟨name, node⟩ := field
    cases node <;> rw [unmarkedFields, ih] <;> first | rfl | simp

theorem unmarkedField_of_not_optional {node : Node} (notOptional : node.isOptional = false) :
    node.unmarkedField = node.unmarked := by
  cases node with
  | optional => cases notOptional
  | _ => rfl

theorem isOptional_unmarked (node : Node) : node.unmarked.isOptional = false := by
  induction node using Node.induction with
  | step node ih =>
    cases node with
    | optional _ inner => exact ih inner (by simp [children])
    | _ => rfl

/-! ### Acceptance -/

/-- Every value without symbols that the one node accepts, the other accepts with as many levels to
go, whatever the references of the two stand for. -/
def WidenedBy (node wider : Node) : Prop :=
  ∀ ⦃references : References⦄ (references' : References) ⦃limit levels : Nat⦄
    ⦃value decoded : Value⦄, value.SymbolFree →
      decodeAt references limit levels node value = .ok decoded →
        ∃ d, decodeAt references' limit levels wider value = .ok d

section Kinds

variable {place place' : Option Place}

theorem decodeAt_plain (references : References) (limit levels : Nat) (text : String) :
    decodeAt references limit levels (.string .plain) (.string text) = .ok (.string text) :=
  decodeAt_string.2 ⟨text, rfl, rfl, rfl⟩

/-- Where no symbol comes in, a symbol is decoded from any string. -/
theorem WidenedBy.symbol : symbol.WidenedBy (.string .plain) := by
  intro _ references' limit levels value _ free ok
  obtain ⟨name, rfl | rfl, -⟩ := decodeAt_symbol.1 ok
  · exact ⟨_, decodeAt_plain references' limit levels name⟩
  · exact free.elim

theorem WidenedBy.array {item item' : Node} {c c' : ArrayConstraints}
    (items : item.WidenedBy item')
    (constraints : ∀ values, c.violation? values = none → c'.violation? values = none) :
    (array place item c).WidenedBy (.array place' item' c') := by
  intro _ references' limit _ _ _ free ok
  obtain ⟨l, values, out, rfl, rfl, sound, oks, -⟩ := decodeAt_array.1 ok
  have free := Value.symbolFree_array_iff.1 free
  have each : ∀ v ∈ values, ∃ d, decodeAt references' limit l item' v = .ok d := by
    intro v member
    obtain ⟨_, -, ok⟩ := forall₂_exists_of_mem oks member
    exact items references' (free v member) ok
  obtain ⟨out', oks'⟩ := exists_forall₂ each
  exact ⟨_, decodeAt_array.2 ⟨l, values, out', rfl, rfl, constraints values sound, oks', rfl⟩⟩

private theorem exists_decodeElements {elements elements' : List Node}
    (each : List.Forall₂ WidenedBy elements elements') {references : References}
    (references' : References) {limit levels : Nat} {items out : List Value}
    (free : ∀ item ∈ items, item.SymbolFree)
    (oks : List.Forall₂ (fun pair o ↦ decodeAt references limit levels pair.1 pair.2 = .ok o)
      (elements.zip items) out) :
    ∃ out', List.Forall₂ (fun pair o ↦ decodeAt references' limit levels pair.1 pair.2 = .ok o)
      (elements'.zip items) out' := by
  induction each generalizing items out with
  | nil => exact ⟨[], .nil⟩
  | cons head _ ih =>
    cases items with
    | nil => exact ⟨[], .nil⟩
    | cons item rest =>
      obtain ⟨freeHere, freeRest⟩ := List.forall_mem_cons.1 free
      cases oks with
      | cons ok later =>
        obtain ⟨d, here⟩ := head references' freeHere ok
        obtain ⟨ds, tail⟩ := ih freeRest later
        exact ⟨d :: ds, .cons here tail⟩

theorem WidenedBy.tuple {elements elements' : List Node}
    (each : List.Forall₂ WidenedBy elements elements') :
    (tuple place elements).WidenedBy (.tuple place' elements') := by
  intro _ references' limit _ _ _ free ok
  obtain ⟨l, items, out, rfl, rfl, length, oks, -⟩ := decodeAt_tuple.1 ok
  obtain ⟨out', oks'⟩ := exists_decodeElements each references'
    (Value.symbolFree_array_iff.1 free) oks
  exact ⟨_, decodeAt_tuple.2 ⟨l, items, out', rfl, rfl, length.trans each.length_eq, oks', rfl⟩⟩

/-- A record takes more if its values do and its keys may be any text. -/
theorem WidenedBy.record {key value value' : Node} (values : value.WidenedBy value') :
    (record place key value).WidenedBy (.record place' (.string .plain) value') := by
  intro _ references' limit _ _ _ free ok
  obtain ⟨l, input, out, rfl, rfl, oks, -⟩ := decodeAt_record.1 ok
  have free := Value.symbolFree_object_iff.1 free
  have each : ∀ entry ∈ input, ∃ o : String × Value,
      (∃ k, decodeAt references' limit l (.string .plain) (.string entry.1) = .ok k
        ∧ k.toKey = o.1) ∧ decodeAt references' limit l value' entry.2 = .ok o.2 := by
    intro entry member
    obtain ⟨_, -, -, ok⟩ := forall₂_exists_of_mem oks member
    obtain ⟨d, ok'⟩ := values references' (free entry member) ok
    exact ⟨(entry.1, d), ⟨_, decodeAt_plain _ _ _ _, rfl⟩, ok'⟩
  obtain ⟨out', oks'⟩ := exists_forall₂ each
  exact ⟨_, decodeAt_record.2 ⟨l, input, out', rfl, rfl, oks', rfl⟩⟩

theorem WidenedBy.union {members members' : List Node}
    (each : ∀ member ∈ members, ∃ wider ∈ members', member.WidenedBy wider) :
    (union place members).WidenedBy (.union place' members') := by
  intro _ references' limit levels _ _ free ok
  obtain ⟨before, member, after, rfl, -, okMember⟩ := decodeAt_union.1 ok
  obtain ⟨wider, among, widened⟩ := each member (by simp)
  obtain ⟨_, ok'⟩ := widened references' free okMember
  exact exists_decodeAt_union among ok'

theorem WidenedBy.optional {inner inner' : Node} (widened : inner.WidenedBy inner')
    (default default' : Option Value) :
    (optional place inner default).WidenedBy (.optional place' inner' default') := by
  intro _ references' limit levels _ _ free ok
  rcases decodeAt_optional.1 ok with ⟨rfl, -⟩ | ⟨notNull, okInner⟩
  · exact ⟨_, decodeAt_optional.2 (.inl ⟨rfl, rfl⟩)⟩
  · obtain ⟨d, ok'⟩ := widened references' free okInner
    exact ⟨d, decodeAt_optional.2 (.inr ⟨notNull, ok'⟩)⟩

/-- A mark takes nothing away. -/
theorem WidenedBy.marked {node wider : Node} (widened : node.WidenedBy wider)
    (default : Option Value) : node.WidenedBy (.optional place wider default) := by
  intro _ references' limit levels value _ free ok
  by_cases null : value = .null
  · exact ⟨_, decodeAt_optional.2 (.inl ⟨null, rfl⟩)⟩
  · obtain ⟨d, ok'⟩ := widened references' free ok
    exact ⟨d, decodeAt_optional.2 (.inr ⟨null, ok'⟩)⟩

/-- A transform accepts what its inner node does. -/
theorem WidenedBy.transform {inner wider : Node} (widened : inner.WidenedBy wider)
    (target : String) (conversion : Conversion) :
    (transform place inner target conversion).WidenedBy wider := by
  intro _ references' _ _ _ _ free ok
  obtain ⟨_, okInner, -⟩ := decodeAt_transform.1 ok
  exact widened references' free okInner

/-- A field under the same name takes more, and may be absent where the other may be. -/
structure FieldWidenedBy (field wider : String × Node) : Prop where
  /-- The names are the same. -/
  name : field.1 = wider.1
  /-- The one field is optional only if the other is. -/
  optional : field.2.isOptional = true → wider.2.isOptional = true
  /-- The nodes widen. -/
  node : field.2.WidenedBy wider.2

private theorem exists_decodeFields {fields fields' : List (String × Node)}
    (each : List.Forall₂ FieldWidenedBy fields fields') {references : References}
    (references' : References) {limit levels : Nat} {input : Entries Value}
    (free : (Value.object input).SymbolFree)
    {out : List (String × Value)}
    (oks : decodeFields (decodeAt references limit levels) input fields = .ok out) :
    ∃ out', decodeFields (decodeAt references' limit levels) input fields' = .ok out' := by
  induction each generalizing out with
  | nil => exact ⟨[], rfl⟩
  | @cons field field' _ _ head _ ih =>
    obtain ⟨name, node⟩ := field
    obtain ⟨_, node'⟩ := field'
    obtain ⟨rfl, optional, widened⟩ := head
    obtain ⟨d, rest, here, later, -⟩ := decodeFields_cons_eq_ok_iff.1 oks
    obtain ⟨out', oks'⟩ := ih later
    have field : ∃ d', FieldDecoded (decodeAt references' limit levels) node'
        (Entries.get? name input) d' := by
      cases found : Entries.get? name input with
      | some raw =>
        rw [found] at here
        obtain ⟨_, ok, -⟩ := here
        obtain ⟨d', ok'⟩ := widened references' (free.of_get? found) ok
        exact ⟨some d', d', ok', rfl⟩
      | none =>
        rw [found] at here
        have isOptional : node.isOptional = true := by
          cases node with
          | optional => rfl
          | _ => cases here
        cases node' with
        | optional _ _ default => exact ⟨default, rfl⟩
        | _ => cases optional isOptional
    obtain ⟨d', here'⟩ := field
    exact ⟨_, decodeFields_cons_eq_ok_iff.2 ⟨d', out', here', oks', rfl⟩⟩

theorem WidenedBy.struct {fields fields' : List (String × Node)} {extraKeys extraKeys' : ExtraKeys}
    (each : List.Forall₂ FieldWidenedBy fields fields')
    (policy : extraKeys' = .reject → extraKeys = .reject) :
    (struct place fields extraKeys).WidenedBy (.struct place' fields' extraKeys') := by
  intro _ references' limit _ _ _ free ok
  obtain ⟨l, input, out, rfl, rfl, expected, oks, -⟩ := decodeAt_struct.1 ok
  have keys : Entries.keys fields' = Entries.keys fields :=
    (Entries.keys_eq_of_forall₂ (each.imp fun _ _ field ↦ ⟨field.name, field.node⟩)).symm
  obtain ⟨out', oks'⟩ := exists_decodeFields each references' free oks
  refine ⟨_, decodeAt_struct.2 ⟨l, input, out', rfl, rfl, fun reject ↦ ?_, oks', rfl⟩⟩
  rw [undeclared_congr keys]
  exact expected (policy reject)

/-- A node that has no children and is no reference accepts the same on any references. -/
theorem WidenedBy.leaf {node : Node} (noChild : node.children = [])
    (notLazy : node.kind ≠ .lazy) : node.WidenedBy node := by
  cases node with
  | lazy => exact absurd rfl notLazy
  | array | record | optional | transform => cases noChild
  | tuple _ elements =>
    obtain rfl : elements = [] := noChild
    exact .tuple .nil
  | struct _ fields =>
    obtain rfl : fields = [] := List.map_eq_nil_iff.1 noChild
    exact .struct .nil id
  | union _ members =>
    obtain rfl : members = [] := noChild
    exact .union (by simp)
  | discriminatedUnion _ _ variants =>
    obtain rfl : variants = [] := List.map_eq_nil_iff.1 noChild
    intro _ _ _ _ _ _ _ ok
    obtain ⟨_, _, _, -, -, found, -⟩ := decodeAt_discriminatedUnion.1 ok
    cases found
  | _ =>
    intro _ _ _ _ _ d _ ok
    rw [decodeAt_eq] at ok
    exact ⟨d, (decodeAt_eq ..).trans ok⟩

end Kinds

end Node

end Schemata
