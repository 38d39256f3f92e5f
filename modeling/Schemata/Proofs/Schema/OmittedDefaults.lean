import Schemata.Proofs.Schema.DistinctKeys
import Schemata.Proofs.Schema.KeyOrder

/-!
# Omitting a field and writing its default

A struct accepts an object without a field that has a default exactly if it accepts the object with
the default written out, as long as no limit is reached. The two decode to equal values if the
default was kept in decoded form. A default whose type holds a stub is checked when the whole tree
exists, and what is kept is the default as it was written: there the two are equal exactly if the
default decodes to itself (`Schema.omitted_same_written_iff`).
-/

namespace Schemata

/-! ### What a default becomes -/

theorem checkDefaults_eq_ok_iff {references : References} {entries : List (Node × Value)} :
    checkDefaults references entries = .ok () ↔ ∀ entry ∈ entries, ∃ decoded,
      decodeAt references defaultMaxDepth defaultMaxDepth entry.1 entry.2 = .ok decoded := by
  induction entries with
  | nil => simp [checkDefaults]
  | cons entry rest ih =>
    obtain ⟨type, default⟩ := entry
    rw [checkDefaults, List.forall_mem_cons, ← ih]
    cases decodeAt references defaultMaxDepth defaultMaxDepth type default <;> simp

/-- A default whose type holds a stub is kept as it is and put off. -/
private theorem exists_deferred {enclosing : List (Kind × Place)} {place : Place} {inner : Ast}
    {default : Value} (stub : inner.hasStub = true) {part : Part}
    (built : buildNode enclosing place (.optional inner (some default)) = .ok part) :
    ∃ type, part.node = .optional (some place) type (some default)
      ∧ (type, default) ∈ part.deferred := by
  obtain ⟨parts, node, -, assembled, rfl⟩ := buildNode_eq_ok_iff.1 built
  rw [Ast.assemble, if_pos stub] at assembled
  refine ⟨_, (Except.ok.inj assembled).symm, List.mem_append_right _ ?_⟩
  rw [Ast.deferred, if_pos stub]
  exact List.mem_singleton.2 rfl

/-- In the schema of a description, every default decodes. It is kept in decoded form, except where
its type holds a stub: there it is kept as it is. -/
theorem Schema.default_of_ofAst {root : Ast} {schema : Schema}
    (built : Schema.ofAst root = .ok schema) {around : List Ast} {place : Place} {inner : Ast}
    {default : Value} (partAt : root.At around place (.optional inner (some default))) :
    ∃ decoded, decodeAt schema.references defaultMaxDepth defaultMaxDepth
        (schema.references.resolve (0 :: place)) default = .ok decoded
      ∧ schema.references.lookup place =
        some (.optional (some place) (schema.references.resolve (0 :: place))
          (some (if inner.hasStub then default else decoded))) := by
  obtain ⟨p, builtPart, found, assembled⟩ := Schema.assembled_of_ofAst built partAt
  have first : (schema.references.below place 1).getD 0 .null =
      schema.references.resolve (0 :: place) := rfl
  rw [Ast.assemble, show (Ast.optional inner (some default)).children.length = 1 from rfl,
    first] at assembled
  split at assembled
  · next stub =>
    obtain ⟨whole, builtWhole, last⟩ := bind_eq_ok_iff.1 built
    obtain ⟨_, checked, last⟩ := bind_eq_ok_iff.1 last
    cases last
    obtain ⟨p', builtPart', -, deferred⟩ := built_at builtWhole partAt
    obtain rfl := Except.ok.inj (builtPart.symm.trans builtPart')
    obtain ⟨type, node, among⟩ := exists_deferred stub builtPart
    obtain ⟨-, rfl, -⟩ := Node.optional.inj ((Except.ok.inj assembled).trans node)
    obtain ⟨decoded, ok⟩ := checkDefaults_eq_ok_iff.1 checked _ (deferred _ among)
    exact ⟨decoded, ok, by rw [found, node, if_pos stub]⟩
  · next noStub =>
    obtain ⟨decoded, ok, eq⟩ := optionalWithDefault_eq_ok assembled
    exact ⟨decoded, ok, by rw [found, eq, if_neg noStub]⟩

/-! ### One field of a struct -/

section Field

variable {decoder : Decoder} {fields : List (String × Node)} {input : Entries Value}
  {name : String} {node : Node} {default : Value}

theorem decodeFields_ok_iff (distinct : Entries.Distinct fields) :
    (∃ out, decodeFields decoder input fields = .ok out) ↔ ∀ name node, (name, node) ∈ fields →
      ∃ out, FieldDecoded decoder node (Entries.get? name input) out :=
  ⟨fun ⟨_, ok⟩ _ _ member ↦ ⟨_, get?_of_decodeFields distinct ok member⟩,
    decodeFields_ok_of_forall⟩

/-- All fields but one decode. -/
def OthersDecode (decoder : Decoder) (input : Entries Value) (name : String)
    (fields : List (String × Node)) : Prop :=
  ∀ other node, (other, node) ∈ fields → other ≠ name →
    ∃ out, FieldDecoded decoder node (Entries.get? other input) out

theorem othersDecode_insert :
    OthersDecode decoder (Entries.insert name default input) name fields ↔
      OthersDecode decoder input name fields := by
  refine forall₄_congr fun other node _ ne ↦ ?_
  rw [Entries.get?_insert_of_ne ne]

/-- A struct decodes without a field if the others decode and the field may be absent. -/
theorem decodeFields_omitted_iff (distinct : Entries.Distinct fields)
    (declared : (name, node) ∈ fields) (absent : Entries.get? name input = none) :
    (∃ out, decodeFields decoder input fields = .ok out) ↔
      OthersDecode decoder input name fields ∧ node.absent?.isSome = true := by
  rw [decodeFields_ok_iff distinct]
  constructor
  · intro each
    refine ⟨fun other n member _ ↦ each other n member, ?_⟩
    obtain ⟨out, field⟩ := each name node declared
    rw [absent] at field
    rw [show node.absent? = some out from field]
    rfl
  · rintro ⟨others, optional⟩ other n member
    by_cases same : other = name
    · subst same
      obtain rfl := Option.some.inj
        ((Entries.get?_eq_some_of_mem distinct member).symm.trans
          (Entries.get?_eq_some_of_mem distinct declared))
      obtain ⟨out, eq⟩ := Option.isSome_iff_exists.1 optional
      exact ⟨out, by rw [absent]; exact eq⟩
    · exact others other n member same

/-- A struct decodes with a field written out if the others decode and what is written does. -/
theorem decodeFields_written_iff (distinct : Entries.Distinct fields)
    (declared : (name, node) ∈ fields) :
    (∃ out, decodeFields decoder (Entries.insert name default input) fields = .ok out) ↔
      OthersDecode decoder input name fields ∧ ∃ d, decoder node default = .ok d := by
  have others : OthersDecode decoder (Entries.insert name default input) name fields ↔
      OthersDecode decoder input name fields := othersDecode_insert
  rw [decodeFields_ok_iff distinct, ← others]
  constructor
  · intro each
    refine ⟨fun other n member _ ↦ each other n member, ?_⟩
    obtain ⟨out, field⟩ := each name node declared
    rw [Entries.get?_insert_self] at field
    obtain ⟨d, ok, -⟩ := field
    exact ⟨d, ok⟩
  · rintro ⟨others, d, ok⟩ other n member
    by_cases same : other = name
    · subst same
      obtain rfl := Option.some.inj
        ((Entries.get?_eq_some_of_mem distinct member).symm.trans
          (Entries.get?_eq_some_of_mem distinct declared))
      exact ⟨some d, by rw [Entries.get?_insert_self]; exact ⟨d, ok, rfl⟩⟩
    · exact others other n member same

/-- Where the other fields decode, a probe that does not run out on the fields does not run out on a
field that is present. -/
theorem trips_of_fieldPairs {probe : Probe} (distinct : Entries.Distinct fields)
    (declared : (name, node) ∈ fields) (others : OthersDecode probe.decode input name fields)
    {raw : Value} (found : Entries.get? name input = some raw)
    (safe : probe.tripsPairs (Level.fieldPairs input fields) = false) :
    probe.trips node raw = false := by
  induction fields with
  | nil => cases declared
  | cons field rest ih =>
    obtain ⟨first, firstNode⟩ := field
    obtain ⟨fresh, distinctRest⟩ := List.nodup_cons.1 distinct
    rw [Level.fieldPairs] at safe
    rcases List.mem_cons.1 declared with same | tail
    · cases same
      rw [found] at safe
      exact (tripsPairs_cons safe).1
    · have ne : first ≠ name := by
        rintro rfl
        exact fresh (Entries.mem_keys tail)
      have othersRest : OthersDecode probe.decode input name rest := fun other n member ↦
        others other n (List.mem_cons_of_mem _ member)
      obtain ⟨out, here⟩ := others first firstNode List.mem_cons_self ne
      cases written : Entries.get? first input with
      | some r =>
        rw [written] at here safe
        obtain ⟨d, ok, -⟩ := here
        exact ih distinctRest tail othersRest ((tripsPairs_cons safe).2 d ok)
      | none =>
        rw [written] at here safe
        cases firstNode with
        | optional => exact ih distinctRest tail othersRest (by simpa [Node.isOptional] using safe)
        | _ => cases here

/-- What a struct decodes to without a field and with it differ in that field only, in what stands
for its absence and what its value decodes to. -/
theorem same_written_iff (distinct : Entries.Distinct fields) (declared : (name, node) ∈ fields)
    (absent : Entries.get? name input = none) (distinctInput : Entries.Distinct input)
    (extraKeys : ExtraKeys) {out out' : List (String × Value)}
    (oks : decodeFields decoder input fields = .ok out)
    (oks' : decodeFields decoder (Entries.insert name default input) fields = .ok out')
    {stored decoded : Value} (kept : node.absent? = some (some stored))
    (ok : decoder node default = .ok decoded)
    (formed : (Value.object
      (out ++ if extraKeys = .include then undeclared fields input else [])).WellFormed) :
    (Value.object (out ++ if extraKeys = .include then undeclared fields input else [])).same
        (.object (out' ++ if extraKeys = .include
          then undeclared fields (Entries.insert name default input) else [])) = true ↔
      stored.same decoded = true := by
  have omitted : Entries.get? name out = some stored := by
    have field := get?_of_decodeFields distinct oks declared
    rw [absent] at field
    exact Option.some.inj (field.symm.trans kept)
  have written : Entries.get? name out' = some decoded := by
    have field := get?_of_decodeFields distinct oks' declared
    rw [Entries.get?_insert_self] at field
    obtain ⟨d, okField, found⟩ := field
    rw [found, Except.ok.inj (okField.symm.trans ok)]
  have others (key : String) (ne : key ≠ name) :
      Entries.get? key
          (out ++ if extraKeys = .include then undeclared fields input else []) =
        Entries.get? key (out' ++ if extraKeys = .include
          then undeclared fields (Entries.insert name default input) else []) := by
    rw [get?_decodeStruct oks, get?_decodeStruct oks', Entries.get?_insert_of_ne ne]
    refine ite_congr rfl (fun inFields ↦ ?_) fun _ ↦ rfl
    obtain ⟨⟨_, other⟩, member, rfl⟩ := List.mem_map.1 inFields
    have field := get?_of_decodeFields distinct oks member
    have field' := get?_of_decodeFields distinct oks' member
    rw [Entries.get?_insert_of_ne ne] at field'
    exact FieldDecoded.unique field field'
  rw [Value.same_object_iff (distinct_decodeStruct oks distinct distinctInput extraKeys)
    (distinct_decodeStruct oks' distinct (Entries.Distinct.insert distinctInput name default)
      extraKeys)]
  have inFields : name ∈ Entries.keys fields := Entries.mem_keys declared
  constructor
  · intro related
    have here := related name
    rw [get?_decodeStruct oks, get?_decodeStruct oks', if_pos inFields, if_pos inFields, omitted,
      written] at here
    cases here with
    | some same => exact same
  · intro same key
    by_cases eq : key = name
    · rw [get?_decodeStruct oks, get?_decodeStruct oks', eq, if_pos inFields, if_pos inFields,
        omitted, written]
      exact .some same
    · rw [← others key eq]
      cases found : Entries.get? key
          (out ++ if extraKeys = .include then undeclared fields input else []) with
      | none => exact .none
      | some value => exact .some (Value.same_refl (formed.of_get? found))

end Field

/-! ### Structs of a schema -/

/-- What is written under the name of a field is declared, whatever it is. -/
theorem undeclared_insert {α : Type} {fields : Entries α} {input : Entries Value} {name : String}
    (declared : name ∈ Entries.keys fields) (absent : Entries.get? name input = none)
    (value : Value) :
    undeclared fields (Entries.insert name value input) = undeclared fields input := by
  have known : Entries.contains name fields = true := Entries.contains_eq_true_iff.2 declared
  rw [Entries.insert_of_not_mem (Entries.get?_eq_none_iff.1 absent), undeclared,
    List.filter_append, List.filter_singleton, known]
  simp [undeclared]

/-- In the schema of a description, at the place of a struct stands a struct, and in it every field
with a default has the node that stands at its own place. -/
theorem Schema.struct_of_ofAst {root : Ast} (formed : root.All Ast.Formed) {schema : Schema}
    (built : Schema.ofAst root = .ok schema) {around : List Ast} {place : Place}
    {fields : List (String × Ast)} {required : List String} {extraKeys : ExtraKeys}
    (partAt : root.At around place (.struct fields required extraKeys)) {i : Nat} {name : String}
    {inner : Ast} {default : Value}
    (declared : fields[i]? = some (name, .optional inner (some default))) :
    ∃ nodes decoded, schema.references.resolve place = .struct (some place) nodes extraKeys
      ∧ Entries.Distinct nodes
      ∧ decodeAt schema.references defaultMaxDepth defaultMaxDepth
          (schema.references.resolve (0 :: i :: place)) default = .ok decoded
      ∧ (name, .optional (some (i :: place)) (schema.references.resolve (0 :: i :: place))
          (some (if inner.hasStub then default else decoded))) ∈ nodes := by
  obtain ⟨decoded, ok, stands⟩ := Schema.default_of_ofAst built (partAt.field declared)
  obtain ⟨nodes, resolved, -, named⟩ := Schema.struct_at built partAt
  have distinct := ((Schema.keepsDistinct_of_ofAst formed built).resolved place).here
  rw [resolved] at distinct
  have member := named i name _ declared
  rw [References.resolve, stands, Option.getD_some] at member
  exact ⟨nodes, decoded, resolved, distinct, ok, member⟩

private theorem decodeAt_struct_object {references : References} {limit levels : Nat}
    {place : Option Place} {fields : List (String × Node)} {extraKeys : ExtraKeys}
    {input : Entries Value} {decoded : Value} :
    decodeAt references limit levels (.struct place fields extraKeys) (.object input) =
        .ok decoded ↔
      ∃ l out, levels = l + 1 ∧ (extraKeys = .reject → undeclared fields input = [])
        ∧ decodeFields (decodeAt references limit l) input fields = .ok out
        ∧ decoded =
          .object (out ++ if extraKeys = .include then undeclared fields input else []) := by
  rw [decodeAt_struct]
  constructor
  · rintro ⟨l, _, out, eq, same, rest⟩
    cases same
    exact ⟨l, out, eq, rest⟩
  · rintro ⟨l, out, eq, rest⟩
    exact ⟨l, input, out, eq, rfl, rest⟩

/-- A field of a struct that may be omitted: with a value written out for it, decoding a type yields
what it yields under the default limit, if no limit is reached on the way. -/
private theorem decodeAt_of_written {references : References} {limit levels : Nat}
    {place fieldPlace : Option Place} {fields : List (String × Node)} {extraKeys : ExtraKeys}
    {name : String} {type : Node} {stored default : Value} (distinct : Entries.Distinct fields)
    (declared : (name, .optional fieldPlace type (some stored)) ∈ fields)
    (notNull : default ≠ .null) {input : Entries Value}
    (expected : extraKeys = .reject → undeclared fields (Entries.insert name default input) = [])
    (others : OthersDecode (decodeAt references limit levels) input name fields)
    (within : tripsAt references limit (levels + 1) (.struct place fields extraKeys)
      (.object (Entries.insert name default input)) = false)
    (checked : defaultMaxDepth < levels + 1 →
      tripsAt references defaultMaxDepth defaultMaxDepth type default = false) :
    decodeAt references limit levels type default =
      decodeAt references defaultMaxDepth defaultMaxDepth type default := by
  rw [tripsAt, tripsNode, Bool.and_eq_false_imp, Bool.not_eq_true'] at within
  have safe := within (by
    rw [Bool.and_eq_false_imp, decide_eq_true_iff]
    intro reject
    simp [expected reject])
  have trips := trips_of_fieldPairs distinct declared (othersDecode_insert.2 others)
    (Entries.get?_insert_self name default input) safe
  have here : tripsAt references limit levels type default = false := by
    have present : default.isNull = false := by
      rwa [← Bool.not_eq_true, Value.isNull_eq_true_iff]
    simpa [tripsAt_eq, tripsNode, present] using trips
  by_cases le : levels ≤ defaultMaxDepth
  · exact (decodeAt_of_not_trips le type default here).symm
  · have ge : defaultMaxDepth ≤ levels := Nat.le_of_lt (Nat.lt_of_not_le le)
    exact decodeAt_of_not_trips ge type default (checked (Nat.lt_succ_of_le ge))

/-- In a struct of the schema of a description, omitting a field that has a default and writing the
default out succeed together, as long as no limit is reached. What they decode to is the same if and
only if the type of the default holds no stub or the default decodes to itself. -/
theorem Schema.omitted_same_written_iff {root : Ast} (formed : root.All Ast.Formed)
    {schema : Schema} (built : Schema.ofAst root = .ok schema) {around : List Ast} {place : Place}
    {fields : List (String × Ast)} {required : List String} {extraKeys : ExtraKeys}
    (partAt : root.At around place (.struct fields required extraKeys)) {i : Nat} {name : String}
    {inner : Ast} {default : Value}
    (declared : fields[i]? = some (name, .optional inner (some default)))
    (notNull : default ≠ .null) {input : Entries Value}
    (distinctKeys : (Value.object input).WellFormed)
    (absent : Entries.get? name input = none) {limit levels : Nat}
    (within : tripsAt schema.references limit levels (schema.references.resolve place)
      (.object (Entries.insert name default input)) = false)
    (checked : defaultMaxDepth < levels → tripsAt schema.references defaultMaxDepth defaultMaxDepth
      (schema.references.resolve (0 :: i :: place)) default = false) :
    ((∃ d, decodeAt schema.references limit levels (schema.references.resolve place)
        (.object input) = .ok d) ↔
      ∃ d, decodeAt schema.references limit levels (schema.references.resolve place)
        (.object (Entries.insert name default input)) = .ok d)
    ∧ ∃ decoded, decodeAt schema.references defaultMaxDepth defaultMaxDepth
        (schema.references.resolve (0 :: i :: place)) default = .ok decoded
      ∧ ∀ d d', decodeAt schema.references limit levels (schema.references.resolve place)
          (.object input) = .ok d →
        decodeAt schema.references limit levels (schema.references.resolve place)
          (.object (Entries.insert name default input)) = .ok d' →
        (d.same d' = true ↔ inner.hasStub = false ∨ default.same decoded = true) := by
  obtain ⟨nodes, decoded, struct, distinct, okDefault, field⟩ :=
    Schema.struct_of_ofAst formed built partAt declared
  have keeps := Schema.keepsDistinct_of_ofAst formed built
  rw [struct] at within ⊢
  have extra := undeclared_insert (Entries.mem_keys field) absent default
  -- What is written out decodes, once the other fields do, as it did under the default limit.
  have written {l : Nat} (eq : levels = l + 1)
      (expected : extraKeys = .reject → undeclared nodes input = [])
      (others : OthersDecode (decodeAt schema.references limit l) input name nodes) :
      decodeAt schema.references limit l (.optional (some (i :: place))
          (schema.references.resolve (0 :: i :: place))
          (some (if inner.hasStub then default else decoded))) default = .ok decoded := by
    subst eq
    refine decodeAt_optional.2 (.inr ⟨notNull, ?_⟩)
    rw [decodeAt_of_written distinct field notNull (by rwa [extra]) others within checked,
      okDefault]
  refine ⟨⟨?_, ?_⟩, decoded, okDefault, fun d d' ok ok' ↦ ?_⟩
  · rintro ⟨d, ok⟩
    obtain ⟨l, out, eq, expected, oks, -⟩ := decodeAt_struct_object.1 ok
    have others := ((decodeFields_omitted_iff distinct field absent).1 ⟨out, oks⟩).1
    obtain ⟨out', oks'⟩ := (decodeFields_written_iff distinct field).2
      ⟨others, decoded, written eq expected others⟩
    exact ⟨_, decodeAt_struct_object.2 ⟨l, out', eq, by rwa [extra], oks', rfl⟩⟩
  · rintro ⟨d, ok⟩
    obtain ⟨l, out, eq, expected, oks, -⟩ := decodeAt_struct_object.1 ok
    have others := ((decodeFields_written_iff distinct field).1 ⟨out, oks⟩).1
    obtain ⟨out', oks'⟩ := (decodeFields_omitted_iff distinct field absent).2 ⟨others, rfl⟩
    exact ⟨_, decodeAt_struct_object.2 ⟨l, out', eq, by rwa [extra] at expected, oks', rfl⟩⟩
  · have outFormed := wellFormed_of_decodeAt keeps.resolved (struct ▸ keeps.resolved place)
      distinctKeys ok
    have decodedFormed : decoded.WellFormed := wellFormed_of_decodeAt keeps.resolved
      (keeps.resolved _) (formed.at (partAt.field declared)).here okDefault
    obtain ⟨l, out, eq, expected, oks, rfl⟩ := decodeAt_struct_object.1 ok
    obtain ⟨l', out', eq', -, oks', rfl⟩ := decodeAt_struct_object.1 ok'
    obtain rfl := Nat.succ.inj (eq.symm.trans eq')
    have others := ((decodeFields_omitted_iff distinct field absent).1 ⟨out, oks⟩).1
    rw [same_written_iff distinct field absent (Value.wellFormed_object_iff.1 distinctKeys).1
      extraKeys oks oks' rfl (written eq expected others) outFormed]
    cases stub : inner.hasStub with
    | true => simp
    | false => simp [Value.same_refl decodedFormed]

/-- A box has a size, which is 1 by default, and may have a box in it. -/
def Ast.box : Ast :=
  .struct
    [("size", .optional (.integer {}) (some (.number (.ofCount 1)))),
      ("inside", .optional (.lazy "box" .struct none) none)]
    [] .reject

/-- A shelf has a box, by default one of which nothing is said. -/
def Ast.shelf : Ast := .struct [("box", .optional .box (some (.object [])))] [] .reject

private theorem formed_shelf : Ast.shelf.All Ast.Formed := by
  simp [Ast.shelf, Ast.box, Ast.all_iff (.struct _ _ _), Ast.all_iff (.optional _ _),
    Ast.all_iff (.integer _), Ast.all_iff (.lazy _ _ _), Ast.children, Entries.values, Ast.Formed,
    Entries.Distinct, Value.WellFormed, Value.WellFormedEntries]

/-- A box without a size is a box with the size of 1. -/
theorem Schema.omitted_same_written_size :
    ∃ schema d d', ofAst .shelf = .ok schema
      ∧ tripsAt schema.references 1 1 (schema.references.resolve [0, 0])
          (.object [("size", .number (.ofCount 1))]) = false
      ∧ decodeAt schema.references 1 1 (schema.references.resolve [0, 0]) (.object []) = .ok d
      ∧ decodeAt schema.references 1 1 (schema.references.resolve [0, 0])
          (.object [("size", .number (.ofCount 1))]) = .ok d'
      ∧ d.same d' = true := by
  have boxAt : Ast.shelf.At [.optional .box (some (.object [])), .shelf] [0, 0] .box :=
    .child (.child .root rfl) rfl
  have empty : (Value.object []).WellFormed :=
    Value.wellFormed_object_iff.2 ⟨List.nodup_nil, by simp⟩
  obtain ⟨schema, d, d', built, within, ok, ok'⟩ : ∃ schema d d', ofAst .shelf = .ok schema
      ∧ tripsAt schema.references 1 1 (schema.references.resolve [0, 0])
          (.object [("size", .number (.ofCount 1))]) = false
      ∧ decodeAt schema.references 1 1 (schema.references.resolve [0, 0]) (.object []) = .ok d
      ∧ decodeAt schema.references 1 1 (schema.references.resolve [0, 0])
          (.object [("size", .number (.ofCount 1))]) = .ok d' :=
    ⟨_, _, _, rfl, rfl, rfl, rfl⟩
  obtain ⟨-, decoded, -, equal⟩ := Schema.omitted_same_written_iff formed_shelf built boxAt (i := 0)
    rfl (by simp) empty rfl within fun deep ↦ absurd deep (by decide)
  exact ⟨schema, d, d', built, within, ok, ok', (equal d d' ok ok').2 (.inl rfl)⟩

/-- On a shelf without a box stands a box without a size, on one with an empty box a box of size 1.
-/
theorem Schema.omitted_box_differs :
    ∃ schema, ofAst .shelf = .ok schema
      ∧ schema.trips (.object []) = false
      ∧ schema.trips (.object [("box", .object [])]) = false
      ∧ schema.decode (.object []) = .ok (.object [("box", .object [])])
      ∧ schema.decode (.object [("box", .object [])]) =
        .ok (.object [("box", .object [("size", .number (.ofCount 1))])]) :=
  ⟨_, rfl, rfl, rfl, rfl, rfl⟩

end Schemata
