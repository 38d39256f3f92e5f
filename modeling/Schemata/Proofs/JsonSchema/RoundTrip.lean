import Schemata.JsonSchema.Export
import Schemata.Proofs.Ast
import Schemata.Proofs.JsonSchema.Reading
import Schemata.Proofs.Value

/-!
# JSON Schema keeps what it has words for

Descriptions that JSON Schema can express (`Ast.Representable`) are read back from their document as
they were, whatever metadata the document carries (`Ast.ofJsonSchema_toJsonSchema`).

Writing and reading meet in the look-ups of the keywords: a schema holds no key but keywords, in a
fixed order (`keys_membersOf`), so metadata and defaults never stand in a keyword's place, and a
type that a schema names is the type of its description (`type_membersOf`), so widening it by null
is undone.
-/

namespace Schemata

namespace Ast

/-- The descriptions that JSON Schema can express. -/
inductive Representable : Ast → Prop where
  /-- A string with any constraints. -/
  | string (c : StringConstraints) : Representable (.string c)
  /-- A number with any constraints. -/
  | number (c : NumericConstraints) : Representable (.number c)
  /-- An integer with any constraints. -/
  | integer (c : NumericConstraints) : Representable (.integer c)
  /-- A truth value. -/
  | boolean : Representable .boolean
  /-- Null. -/
  | null : Representable .null
  /-- One or more values without symbols. -/
  | literal {values : List Value} (nonempty : values ≠ [])
      (free : ∀ value ∈ values, value.SymbolFree) : Representable (.literal values)
  /-- An array whose exact length is not demanded. -/
  | array {item : Ast} {c : ArrayConstraints} (ofItem : Representable item)
      (noLength : c.length = none) : Representable (.array item c)
  /-- A tuple. -/
  | tuple {elements : List Ast} (ofElements : ∀ element ∈ elements, Representable element) :
      Representable (.tuple elements)
  /-- A struct that does not copy undeclared keys and demands the fields that are not optional. -/
  | struct {fields : List (String × Ast)} {extraKeys : ExtraKeys}
      (distinct : Entries.Distinct fields) (policy : extraKeys ≠ .include)
      (ofRequired : ∀ name ast, (name, ast) ∈ fields → ast.isOptional = false → Representable ast)
      (ofOptional : ∀ name inner default, (name, .optional inner default) ∈ fields →
        Representable inner)
      (free : ∀ name inner default, (name, .optional inner (some default)) ∈ fields →
        default.SymbolFree) :
      Representable (.struct fields (requiredNames fields) extraKeys)
  /-- A record with keys of any text. -/
  | record {value : Ast} (ofValue : Representable value) :
      Representable (.record .plainString value)
  /-- A union other than null or a second member whose schema names a type. -/
  | union {members : List Ast} (ofMembers : ∀ member ∈ members, Representable member)
      (nullLast : ∀ second type, members = [.null, second] →
        Entries.get? "type" (JsonSchema.membersOf second) = some (.string type) →
        second = .null) :
      Representable (.union members)
  /-- A discriminated union of structs, where the first constant field of each is the discriminator
  and holds the tag. -/
  | discriminatedUnion {discriminator : String} {variants : List (String × Ast)}
      (nonempty : variants ≠ []) (distinct : Entries.Distinct variants)
      (ofVariants : ∀ tag variant, (tag, variant) ∈ variants → Representable variant)
      (tagged : ∀ tag variant, (tag, variant) ∈ variants →
        ∃ before value after required extraKeys,
          variant =
            .struct (before ++ (discriminator, .literal [value]) :: after) required extraKeys
          ∧ (∀ field ∈ before, ∀ v, field.2 ≠ .literal [v]) ∧ value.toKey = tag) :
      Representable (.discriminatedUnion discriminator variants)

end Ast

namespace JsonSchema

/-! ### Children -/

theorem schemasOf_eq (asts : List Ast) :
    schemasOf asts = asts.map fun ast ↦ .object (membersOf ast) := by
  induction asts with
  | nil => rfl
  | cons ast rest ih => simp [schemasOf, ih]

theorem propertiesOf_eq (fields : List (String × Ast)) :
    propertiesOf fields = fields.map fun field ↦ (field.1, .object (membersOf field.2)) := by
  induction fields with
  | nil => rfl
  | cons field rest ih => simp [propertiesOf, ih]

theorem variantSchemas_eq (variants : List (String × Ast)) :
    variantSchemas variants = variants.map fun variant ↦ .object (membersOf variant.2) := by
  induction variants with
  | nil => rfl
  | cons variant rest ih => simp [variantSchemas, ih]

/-- Schemas that are read back one by one are read back together. -/
theorem readList_map {asts : List Ast}
    (each : ∀ ast ∈ asts, read (.object (membersOf ast)) = .ok ast) :
    readList (asts.map fun ast ↦ .object (membersOf ast)) = .ok asts := by
  induction asts with
  | nil => rfl
  | cons ast rest ih =>
    obtain ⟨here, tail⟩ := List.forall_mem_cons.1 each
    rw [List.map_cons, readList, here, ih tail]
    rfl

/-- The schemas of some descriptions are read one by one. -/
theorem forall₂_of_schemasOf {asts bs : List Ast} (ok : readList (schemasOf asts) = .ok bs) :
    List.Forall₂ (fun ast b ↦ read (.object (membersOf ast)) = .ok b) asts bs := by
  rw [schemasOf_eq] at ok
  exact List.forall₂_map_left_iff.1 (forall₂_of_readList ok)

/-- The schemas of some fields are read one by one, and those outside the required names marked. -/
theorem forall₂_of_propertiesOf {required : List String} {fields : List (String × Ast)}
    {bs : Entries Ast} (ok : readFields required (propertiesOf fields) = .ok bs) :
    List.Forall₂ (fun field field' ↦ field.1 = field'.1
      ∧ ∃ b, read (.object (membersOf field.2)) = .ok b
        ∧ field'.2 = fieldOf required field.1 (.object (membersOf field.2)) b) fields bs := by
  rw [propertiesOf_eq] at ok
  exact List.forall₂_map_left_iff.1 (forall₂_of_readFields ok)

/-! ### Keys -/

/-- The keywords that stand beside a type, in the order they stand in. -/
def typeKeywords : List String :=
  ["minLength", "maxLength", "pattern", "minimum", "maximum", "exclusiveMinimum",
    "exclusiveMaximum", "multipleOf", "items", "prefixItems", "minItems", "maxItems", "uniqueItems",
    "properties", "required", "additionalProperties"]

/-- The keywords of the schemas of representable descriptions, in the order they stand in. -/
def keywords : List String := "type" :: (typeKeywords ++ ["const", "enum", "anyOf", "oneOf"])

theorem keys_memberOf_sublist {α : Type} (key : String) (write : α → Json) (value : Option α) :
    (Entries.keys (Json.memberOf key write value)).Sublist [key] := by
  cases value <;> simp [Json.memberOf]

@[simp] theorem get?_memberOf {α : Type} (key other : String) (write : α → Json)
    (value : Option α) :
    Entries.get? other (Json.memberOf key write value) =
      if key = other then value.map write else none := by
  cases value <;> simp [Json.memberOf, Entries.get?_cons]

/-- Whether the schema of a description is the schema of null. -/
abbrev IsNull (ast : Ast) : Prop := isNullSchema (.object (membersOf ast)) = true

theorem nullable?_eq_some_iff {members wide : Entries Json} :
    nullable? (.object members) = some wide ↔
      ∃ type, Entries.get? "type" members = some (.string type)
        ∧ wide = Entries.insert "type" (.array [.string type, .string "null"]) members := by
  rw [nullable?]
  split
  · next type named => simp [named, eq_comm]
  · next unnamed =>
    simp only [reduceCtorEq, false_iff]
    rintro ⟨type, named, -⟩
    exact unnamed type named

/-- The schema of a union widens the type of the one member beside null, or lists alternatives. -/
theorem membersOf_union_cases (members : List Ast) :
    (∃ first second wide, members = [first, second] ∧ IsNull first ∧ ¬IsNull second
        ∧ nullable? (.object (membersOf second)) = some wide ∧ membersOf (.union members) = wide)
      ∨ (∃ first second wide, members = [first, second] ∧ IsNull second ∧ ¬IsNull first
        ∧ nullable? (.object (membersOf first)) = some wide ∧ membersOf (.union members) = wide)
      ∨ membersOf (.union members) = [("anyOf", .array (schemasOf members))] := by
  rw [membersOf]
  match members with
  | [] => exact .inr (.inr rfl)
  | [_] => exact .inr (.inr rfl)
  | [first, second] =>
    simp only [schemasOf, unionMembers, Bool.and_eq_true, Bool.not_eq_true']
    split
    · next nulls =>
      cases widened : nullable? (.object (membersOf second)) with
      | none => exact .inr (.inr rfl)
      | some wide =>
        exact .inl ⟨first, second, wide, rfl, nulls.1, by simp [IsNull, nulls.2], widened, rfl⟩
    · split
      · next nulls =>
        cases widened : nullable? (.object (membersOf first)) with
        | none => exact .inr (.inr rfl)
        | some wide =>
          have notNull : ¬IsNull first := by simp [IsNull, nulls.2]
          exact .inr (.inl ⟨first, second, wide, rfl, nulls.1, notNull, widened, rfl⟩)
      · exact .inr (.inr rfl)
  | _ :: _ :: _ :: _ => exact .inr (.inr rfl)

/-- The members of a schema that names its type, where that is the type of a representable
description. -/
structure Typed (ast : Ast) (type : String) (rest : Entries Json) : Prop where
  members : membersOf ast = typed type rest
  keys : (Entries.keys rest).Sublist typeKeywords
  null : type = "null" → ast = .null

/-- The members of a schema that names no type, or more than one. -/
private structure Untyped (ast : Ast) : Prop where
  type : ∀ type, Entries.get? "type" (membersOf ast) ≠ some (.string type)
  keys : (Entries.keys (membersOf ast)).Sublist keywords

private theorem Typed.keysOf {ast : Ast} {type : String} {rest : Entries Json}
    (h : Typed ast type rest) : (Entries.keys (membersOf ast)).Sublist keywords := by
  rw [h.members]
  exact (h.keys.trans (List.sublist_append_left _ _)).cons_cons _

theorem typed_string (c : StringConstraints) : ∃ rest, Typed (.string c) "string" rest := by
  have declared : ["minLength", "maxLength", "pattern"].Sublist typeKeywords := by decide
  refine ⟨_, rfl, List.Sublist.trans ?_ declared, by simp⟩
  simp only [Entries.keys_append]
  exact ((keys_memberOf_sublist _ _ _).append (keys_memberOf_sublist _ _ _)).append
    (keys_memberOf_sublist _ _ _)

theorem keys_numeric (c : NumericConstraints) :
    (Entries.keys (Json.memberOf "minimum" Json.number c.min
      ++ Json.memberOf "maximum" Json.number c.max
      ++ Json.memberOf "exclusiveMinimum" Json.number c.greaterThan
      ++ Json.memberOf "exclusiveMaximum" Json.number c.lessThan
      ++ Json.memberOf "multipleOf" Json.number c.multipleOf)).Sublist typeKeywords := by
  refine List.Sublist.trans ?_ (by decide : ["minimum", "maximum", "exclusiveMinimum",
    "exclusiveMaximum", "multipleOf"].Sublist _)
  simp only [Entries.keys_append]
  exact ((((keys_memberOf_sublist _ _ _).append (keys_memberOf_sublist _ _ _)).append
    (keys_memberOf_sublist _ _ _)).append (keys_memberOf_sublist _ _ _)).append
    (keys_memberOf_sublist _ _ _)

theorem typed_array (item : Ast) (c : ArrayConstraints) :
    ∃ rest, Typed (.array item c) "array" rest := by
  refine ⟨_, rfl, List.Sublist.trans ?_
    (by decide : ["items", "minItems", "maxItems", "uniqueItems"].Sublist _), by simp⟩
  have unique : (Entries.keys (if c.unique then [("uniqueItems", Json.bool true)] else [])).Sublist
      ["uniqueItems"] := by
    split <;> simp
  simp only [Entries.keys_append]
  exact (((List.Sublist.refl ["items"]).append (keys_memberOf_sublist _ _ _)).append
    (keys_memberOf_sublist _ _ _)).append unique

/-- A schema names its type or not; its keys are keywords in either case. -/
private theorem typed_or_untyped {ast : Ast} (h : ast.Representable) :
    (∃ type rest, Typed ast type rest) ∨ Untyped ast := by
  induction h with
  | string c => exact .inl ⟨_, typed_string c⟩
  | number c => exact .inl ⟨_, _, rfl, keys_numeric c, by simp⟩
  | integer c => exact .inl ⟨_, _, rfl, keys_numeric c, by simp⟩
  | boolean => exact .inl ⟨_, _, rfl, List.nil_sublist _, by simp⟩
  | null => exact .inl ⟨_, _, rfl, List.nil_sublist _, fun _ ↦ rfl⟩
  | @array item c => exact .inl ⟨_, typed_array item c⟩
  | tuple =>
    exact .inl ⟨_, _, rfl, (by decide : ["prefixItems", "minItems", "maxItems"].Sublist _), by simp⟩
  | struct =>
    exact .inl ⟨_, _, rfl,
      (by decide : ["properties", "required", "additionalProperties"].Sublist _), by simp⟩
  | record => exact .inl ⟨_, _, rfl, (by decide : ["additionalProperties"].Sublist _), by simp⟩
  | @literal values nonempty =>
    match values with
    | [] => exact absurd rfl nonempty
    | [_] => exact .inr ⟨by simp [membersOf, literalMembers, Entries.get?_cons],
        (by decide : ["const"].Sublist keywords)⟩
    | _ :: _ :: _ => exact .inr ⟨by simp [membersOf, literalMembers, Entries.get?_cons],
        (by decide : ["enum"].Sublist keywords)⟩
  | @union members _ _ ih =>
    have widened (member : Ast) (inMembers : member ∈ members) {wide : Entries Json}
        (h : nullable? (.object (membersOf member)) = some wide)
        (eq : membersOf (.union members) = wide) : Untyped (.union members) := by
      obtain ⟨type, named, rfl⟩ := nullable?_eq_some_iff.1 h
      have keys : (Entries.keys (membersOf member)).Sublist keywords := by
        rcases ih member inMembers with ⟨_, _, typed⟩ | untyped
        · exact typed.keysOf
        · exact untyped.keys
      refine ⟨by simp [eq, Entries.get?_insert_self], ?_⟩
      rwa [eq, Entries.keys_insert_of_mem (Entries.mem_keys (Entries.mem_of_get?_eq_some named))]
    rcases membersOf_union_cases members with
      ⟨first, second, wide, rfl, -, -, h, eq⟩ | ⟨first, second, wide, rfl, -, -, h, eq⟩ | eq
    · exact .inr (widened second (by simp) h eq)
    · exact .inr (widened first (by simp) h eq)
    · refine .inr ⟨by simp [eq, Entries.get?_cons], ?_⟩
      rw [eq]
      exact (by decide : ["anyOf"].Sublist keywords)
  | discriminatedUnion =>
    exact .inr ⟨by simp [membersOf, Entries.get?_cons], (by decide : ["oneOf"].Sublist keywords)⟩

/-- A schema holds no key but keywords, each at most once. -/
theorem keys_membersOf {ast : Ast} (h : ast.Representable) :
    (Entries.keys (membersOf ast)).Sublist keywords := by
  rcases typed_or_untyped h with ⟨_, _, typed⟩ | untyped
  · exact typed.keysOf
  · exact untyped.keys

theorem get?_deciding {type : String} {rest : Entries Json}
    (keys : (Entries.keys rest).Sublist typeKeywords) :
    ∀ key ∈ deciding, Entries.get? key (typed type rest) = none := by
  intro key member
  rw [Entries.get?_eq_none_iff]
  intro inKeys
  have disjoint : ∀ key ∈ deciding, key ∉ "type" :: typeKeywords := by decide
  exact disjoint key member ((keys.cons_cons "type").subset inKeys)

/-- A schema that names its type holds nothing that decides before the type, and only the schema of
null names null. -/
theorem type_membersOf {ast : Ast} (h : ast.Representable) {type : String}
    (named : Entries.get? "type" (membersOf ast) = some (.string type)) :
    (∀ key ∈ deciding, Entries.get? key (membersOf ast) = none)
      ∧ (type = "null" → ast = .null) := by
  rcases typed_or_untyped h with ⟨type', rest, typed⟩ | untyped
  · rw [typed.members] at named ⊢
    obtain rfl : type' = type := by simpa [JsonSchema.typed, Entries.get?_cons] using named
    exact ⟨get?_deciding typed.keys, typed.null⟩
  · exact absurd named (untyped.type type)

/-- Only null has the schema of null. -/
theorem isNull_iff {ast : Ast} (h : ast.Representable) : IsNull ast ↔ ast = .null := by
  constructor
  · intro null
    have members : membersOf ast = [("type", .string "null")] := by
      rw [IsNull, isNullSchema.eq_def] at null
      split at null
      · next key type eq =>
        rw [Json.object.inj eq]
        simpa using null
      · cases null
    exact (type_membersOf h (by rw [members]; rfl)).2 rfl
  · rintro rfl
    rfl

/-! ### Constraints -/

theorem stringConstraintsOf_stringMembers (c : StringConstraints) :
    stringConstraintsOf (stringMembers c) = c := by
  obtain ⟨min, max, format⟩ := c
  cases min <;> cases max <;> cases format <;>
    simp [stringConstraintsOf, stringMembers, typed, countOf, Entries.get?_cons,
      Entries.get?_append, Json.asString?]

theorem numericConstraintsOf_numericMembers (type : String) (c : NumericConstraints) :
    numericConstraintsOf (numericMembers type c) = c := by
  have asNumber? (n : Option Number) : (n.map Json.number).bind Json.asNumber? = n := by
    cases n <;> rfl
  simp [numericConstraintsOf, numericMembers, typed, numberOf, Entries.get?_cons,
    Entries.get?_append, asNumber?]

theorem arrayConstraintsOf_arrayMembers (item : Json) {c : ArrayConstraints}
    (noLength : c.length = none) : arrayConstraintsOf (arrayMembers item c) = c := by
  have asCount? (n : Option UInt64) : (n.map Json.ofCount).bind Json.asCount? = n := by
    cases n <;> simp
  obtain ⟨min, max, length, unique⟩ := c
  subst noLength
  cases unique <;>
    simp [arrayConstraintsOf, arrayMembers, typed, countOf, Entries.get?_cons, Entries.get?_append,
      asCount?, Json.asBool?]

/-! ### Structs -/

/-- The names of the fields that must be present are those of the fields that are not optional. -/
theorem mem_requiredNames {fields : Entries Ast} (distinct : Entries.Distinct fields)
    {name : String} {ast : Ast} (member : (name, ast) ∈ fields) :
    name ∈ Ast.requiredNames fields ↔ ast.isOptional = false := by
  rw [Ast.requiredNames, List.mem_map]
  constructor
  · rintro ⟨⟨_, other⟩, inFiltered, rfl⟩
    obtain ⟨inFields, required⟩ := List.mem_filter.1 inFiltered
    have same : other = ast := Option.some.inj <|
      (Entries.get?_eq_some_of_mem distinct inFields).symm.trans
        (Entries.get?_eq_some_of_mem distinct member)
    simpa [same] using required
  · exact fun required ↦ ⟨(name, ast), List.mem_filter.2 ⟨member, by simp [required]⟩, rfl⟩

/-- Reading keeps the list of required names. -/
theorem structOf_requiredNames {fields : Entries Ast} (distinct : Entries.Distinct fields)
    (extraKeys : ExtraKeys) :
    structOf (Ast.requiredNames fields) extraKeys fields =
      .struct fields (Ast.requiredNames fields) extraKeys := by
  have names : (Entries.keys fields).filter (Ast.requiredNames fields).contains =
      Ast.requiredNames fields := by
    rw [Entries.keys, List.filter_map]
    refine congrArg (List.map Prod.fst) (List.filter_congr fun field member ↦ ?_)
    rw [Bool.eq_iff_iff, Function.comp_apply, List.contains_iff_mem,
      mem_requiredNames distinct member]
    simp
  rw [structOf, names]

/-- A schema with a default reads as it does without, and the default reads back. -/
theorem read_withDefault {inner : Ast} (h : inner.Representable)
    (ok : read (.object (membersOf inner)) = .ok inner) {default : Option Value}
    (free : ∀ value, default = some value → value.SymbolFree) :
    read (.object (withDefault default (membersOf inner))) = .ok inner
      ∧ ((Json.object (withDefault default (membersOf inner))).get? "default").map Value.ofJson =
        default := by
  cases default with
  | none =>
    refine ⟨ok, ?_⟩
    have absent : Entries.get? "default" (membersOf inner) = none := by
      rw [Entries.get?_eq_none_iff]
      exact fun member ↦ (by decide : "default" ∉ keywords) ((keys_membersOf h).subset member)
    simp [withDefault, Json.get?, absent]
  | some value =>
    constructor
    · rw [← ok]
      refine read_congr fun key counts ↦ ?_
      exact Entries.get?_insert_of_ne (fun eq ↦ counts (by simp [eq, annotations])) _ _
    · simp [withDefault, Json.get?, Entries.get?_insert_self,
        Value.ofJson_toJson value (free value rfl)]

/-- Fields whose schemas are read back are read back together. -/
theorem readFields_map {required : List String} {fields : Entries Ast}
    (each : ∀ name ast, (name, ast) ∈ fields → ∃ a, read (.object (membersOf ast)) = .ok a
      ∧ fieldOf required name (.object (membersOf ast)) a = ast) :
    readFields required (fields.map fun field ↦ (field.1, .object (membersOf field.2))) =
      .ok fields := by
  induction fields with
  | nil => rfl
  | cons field rest ih =>
    obtain ⟨name, ast⟩ := field
    obtain ⟨a, ok, eq⟩ := each name ast List.mem_cons_self
    rw [List.map_cons, readFields, ok,
      ih fun n b member ↦ each n b (List.mem_cons_of_mem _ member)]
    show Except.ok ((name, fieldOf required name (.object (membersOf ast)) a) :: rest) = _
    rw [eq]

/-! ### Discriminated unions -/

theorem tagOf?_append {before : Entries Ast} (first : ∀ field ∈ before, ∀ v, field.2 ≠ .literal [v])
    (discriminator : String) (value : Value) (after : Entries Ast) :
    tagOf? (before ++ (discriminator, .literal [value]) :: after) =
      some (discriminator, value.toKey) := by
  induction before with
  | nil => rfl
  | cons field rest ih =>
    obtain ⟨name, ast⟩ := field
    obtain ⟨here, tail⟩ := List.forall_mem_cons.1 first
    rw [List.cons_append, tagOf?]
    · exact ih tail
    · rintro _ value eq
      cases eq
      exact here value rfl

/-- The variants are structs that hold the discriminator first among their constants, with the tag
as its key. -/
private def Tagged (discriminator : String) (variants : Entries Ast) : Prop :=
  ∀ tag variant, (tag, variant) ∈ variants → ∃ fields required extraKeys,
    variant = .struct fields required extraKeys ∧ tagOf? fields = some (discriminator, tag)

private theorem findTags_cons {discriminator tag : String} {fields : Entries Ast}
    (tagged : tagOf? fields = some (discriminator, tag)) {shared : Option String}
    (agrees : shared = none ∨ shared = some discriminator) (i : Nat) (required : List String)
    (extraKeys : ExtraKeys) (rest : List Ast) :
    findTags i shared (.struct fields required extraKeys :: rest) =
      (findTags (i + 1) (some discriminator) rest).map fun r ↦ (r.1, some tag :: r.2) := by
  rcases agrees with rfl | rfl
  · simp only [findTags, tagged]
    rfl
  · simp only [findTags, tagged, ne_eq, not_true_eq_false, if_false]
    rfl

private theorem findTags_values {discriminator : String} {variants : Entries Ast}
    (tagged : Tagged discriminator variants) {shared : Option String}
    (agrees : shared = none ∨ shared = some discriminator) (i : Nat) :
    findTags i shared (Entries.values variants) =
      .ok (if variants = [] then shared else some discriminator,
        (Entries.keys variants).map some) := by
  induction variants generalizing shared i with
  | nil => rfl
  | cons entry rest ih =>
    obtain ⟨tag, variant⟩ := entry
    obtain ⟨fields, required, extraKeys, rfl, found⟩ := tagged tag variant List.mem_cons_self
    have tail := fun t v member ↦ tagged t v (List.mem_cons_of_mem _ member)
    have later := ih tail (.inr rfl) (i + 1)
    rw [Entries.values, List.map_cons, findTags_cons found agrees]
    rw [Entries.values] at later
    rw [later]
    simp [Except.map]

private theorem variantsOf_values {discriminator : String} {variants : Entries Ast}
    {seen : List String} (distinct : Entries.Distinct variants)
    (fresh : ∀ tag ∈ Entries.keys variants, tag ∉ seen) (i : Nat) :
    variantsOf discriminator i seen (Entries.values variants) ((Entries.keys variants).map some) =
      .ok variants := by
  induction variants generalizing seen i with
  | nil => rfl
  | cons entry rest ih =>
    obtain ⟨tag, variant⟩ := entry
    obtain ⟨new, distinctRest⟩ := List.nodup_cons.1 distinct
    have unseen : seen.contains tag = false := by
      simpa using fresh tag (by simp)
    have freshRest : ∀ t ∈ Entries.keys rest, t ∉ tag :: seen := by
      intro t member seenTag
      rcases List.mem_cons.1 seenTag with rfl | before
      · exact new member
      · exact fresh t (by simp [member]) before
    have later := ih distinctRest freshRest (i + 1)
    simp only [Entries.values, List.map_cons, Entries.keys_cons, variantsOf, Option.getD_some,
      Option.isSome_some, if_true, unseen, Bool.false_eq_true, if_false]
    rw [Entries.values] at later
    rw [later]
    rfl

/-- Alternatives with distinct tags become the discriminated union that they are the variants of. -/
private theorem unionOfAlternatives_values {discriminator : String} {variants : Entries Ast}
    (nonempty : variants ≠ []) (distinct : Entries.Distinct variants)
    (tagged : Tagged discriminator variants) :
    unionOfAlternatives (Entries.values variants) =
      .ok (.discriminatedUnion discriminator variants) := by
  rw [unionOfAlternatives, findTags_values tagged (.inl rfl), if_neg nonempty]
  show (variantsOf discriminator 0 [] (Entries.values variants) _).bind _ = _
  rw [variantsOf_values distinct (by simp)]
  rfl

/-! ### Documents -/

/-- A schema that names its type reads as the form of that type does. -/
private theorem read_typed {type : String} {rest : Entries Json} {form : Form}
    (keys : (Entries.keys rest).Sublist typeKeywords)
    (okForm : typedForm type (typed type rest) = .ok form) :
    read (.object (typed type rest)) = readPlan (typed type rest) { form } := by
  rw [read_of_type (get?_deciding keys) rfl, okForm]
  rfl

private theorem bind_pure_eq_map {ε α β : Type} (result : Except ε α) (f : α → β) :
    (result >>= fun a ↦ pure (f a)) = result.map f := by
  cases result <;> rfl

/-- An array reads as an array of what its items read as; an exact length, as equal limits. -/
theorem read_array (item : Ast) (c : ArrayConstraints) :
    read (.object (membersOf (.array item c))) =
      (read (.object (membersOf item))).map fun b ↦
        .array b { min := c.length <|> c.min, max := c.length <|> c.max, unique := c.unique } := by
  obtain ⟨rest, typed⟩ := typed_array item c
  have members : JsonSchema.typed "array" rest = arrayMembers (.object (membersOf item)) c :=
    typed.members.symm
  have noPrefix : Entries.contains "prefixItems" (JsonSchema.typed "array" rest) = false := by
    rw [members, Entries.contains]
    cases unique : c.unique <;>
      simp [arrayMembers, JsonSchema.typed, Entries.get?_cons, Entries.get?_append, unique]
  have constraints : arrayConstraintsOf (JsonSchema.typed "array" rest) =
      { min := c.length <|> c.min, max := c.length <|> c.max, unique := c.unique } := by
    rw [members]
    exact arrayConstraintsOf_arrayMembers (.object (membersOf item)) (c := ⟨_, _, none, _⟩) rfl
  have form : typedForm "array" (JsonSchema.typed "array" rest) = .ok (.array true
      { min := c.length <|> c.min, max := c.length <|> c.max, unique := c.unique }) := by
    rw [typedForm, noPrefix, constraints, members]
    rfl
  rw [typed.members, read_typed typed.keys form, members]
  show (readUnder "items" (arrayMembers (.object (membersOf item)) c) >>= _) = _
  rw [readUnder_eq]
  exact bind_pure_eq_map _ _

/-- A tuple reads as a tuple of what its elements read as. -/
theorem read_tuple (elements : List Ast) :
    read (.object (membersOf (.tuple elements))) = (readList (schemasOf elements)).map .tuple := by
  have keys : ["prefixItems", "minItems", "maxItems"].Sublist typeKeywords := by decide
  rw [membersOf]
  refine Eq.trans (read_typed keys rfl) ?_
  show (readListUnder "prefixItems" (tupleMembers (schemasOf elements)) >>= _) = _
  rw [readListUnder_eq]
  exact bind_pure_eq_map _ _

/-- A struct reads as a struct of what its fields read as, which keeps no undeclared keys. -/
theorem read_struct (fields : List (String × Ast)) (required : List String)
    (extraKeys : ExtraKeys) :
    read (.object (membersOf (.struct fields required extraKeys))) =
      (readFields required (propertiesOf fields)).map
        (structOf required (extraKeysOf (some (.bool (extraKeys != .reject))))) := by
  have keys : ["properties", "required", "additionalProperties"].Sublist typeKeywords := by decide
  have names : requiredOf (structMembers (propertiesOf fields) required extraKeys) = required := by
    show (required.map Json.string).filterMap Json.asString? = _
    simp [List.filterMap_map, Function.comp_def, Json.asString?]
  have form : typedForm "object" (structMembers (propertiesOf fields) required extraKeys) =
      .ok (.struct required (extraKeysOf (some (.bool (extraKeys != .reject))))) := by
    rw [typedForm, objectForm, names]
    rfl
  rw [membersOf]
  refine Eq.trans (read_typed keys form) ?_
  show (readFieldsUnder required (structMembers (propertiesOf fields) required extraKeys) >>= _) = _
  rw [readFieldsUnder_eq]
  exact bind_pure_eq_map _ _

/-- A record reads as a record of what its values read as, under keys of any text. -/
theorem read_record (key value : Ast) :
    read (.object (membersOf (.record key value))) =
      (read (.object (membersOf value))).map (.record .plainString) := by
  have keys : ["additionalProperties"].Sublist typeKeywords := by decide
  rw [membersOf]
  refine Eq.trans (read_typed keys rfl) ?_
  show (readUnder "additionalProperties" _ >>= _) = _
  rw [readUnder_eq]
  exact bind_pure_eq_map _ _

/-- Alternatives read as the union of what they read as. -/
theorem read_anyOf (docs : List Json) :
    read (.object [("anyOf", .array docs)]) = (readList docs).map .union := by
  rw [read_object]
  show (readListUnder "anyOf" [("anyOf", .array docs)] >>= _) = _
  rw [readListUnder_eq]
  exact bind_pure_eq_map _ _

/-- The schema of a description reads as the description. -/
private abbrev ReadsBack (ast : Ast) : Prop :=
  read (.object (membersOf ast)) = .ok ast

private theorem readsBack_string (c : StringConstraints) : ReadsBack (.string c) := by
  obtain ⟨rest, typed⟩ := typed_string c
  have members : JsonSchema.typed "string" rest = stringMembers c := typed.members.symm
  rw [ReadsBack, typed.members]
  rw [read_typed typed.keys rfl, members, stringConstraintsOf_stringMembers]
  rfl

private theorem readsBack_literal {values : List Value} (nonempty : values ≠ [])
    (free : ∀ value ∈ values, value.SymbolFree) : ReadsBack (.literal values) := by
  have values_eq : Value.ofJson (Value.toJson (.array values)) = .array values :=
    Value.ofJson_toJson _ (Value.symbolFree_array_iff.2 free)
  match values with
  | [] => exact absurd rfl nonempty
  | [value] =>
    show Except.ok (Ast.literal [.ofJson value.toJson]) = _
    rw [Value.ofJson_toJson value (free value (by simp))]
  | first :: second :: rest =>
    show Except.ok (Ast.literal
      (Value.ofJsonItems (Value.toJsonItems (first :: second :: rest)))) = _
    rw [Value.array.inj values_eq]

private theorem readsBack_array {item : Ast} {c : ArrayConstraints} (noLength : c.length = none)
    (back : ReadsBack item) : ReadsBack (.array item c) := by
  obtain ⟨min, max, _, unique⟩ := c
  obtain rfl := noLength
  rw [ReadsBack, read_array, back]
  rfl

private theorem readsBack_tuple {elements : List Ast}
    (back : ∀ element ∈ elements, ReadsBack element) : ReadsBack (.tuple elements) := by
  rw [ReadsBack, read_tuple, schemasOf_eq, readList_map back]
  rfl

/-- The fields of a struct read back, those that are not required as optional. -/
private theorem readFields_propertiesOf {fields : List (String × Ast)}
    (distinct : Entries.Distinct fields)
    (required : ∀ name ast, (name, ast) ∈ fields → ast.isOptional = false → ReadsBack ast)
    (optional : ∀ name inner default, (name, .optional inner default) ∈ fields →
      inner.Representable ∧ ReadsBack inner)
    (free : ∀ name inner default, (name, .optional inner (some default)) ∈ fields →
      default.SymbolFree) :
    readFields (Ast.requiredNames fields) (propertiesOf fields) = .ok fields := by
  rw [propertiesOf_eq]
  refine readFields_map fun name ast member ↦ ?_
  have isRequired := mem_requiredNames distinct member
  cases ast with
  | optional inner default =>
    have freeDefault (value : Value) (eq : default = some value) : value.SymbolFree :=
      free name inner value (eq ▸ member)
    obtain ⟨representable, back⟩ := optional name inner default member
    obtain ⟨ok, default_eq⟩ := read_withDefault representable back freeDefault
    refine ⟨inner, ok, ?_⟩
    rw [fieldOf, if_neg (by simp [isRequired, Ast.isOptional])]
    exact congrArg (Ast.optional inner) default_eq
  | _ =>
    refine ⟨_, required name _ member rfl, ?_⟩
    rw [fieldOf, if_pos (by simp [isRequired, Ast.isOptional])]

private theorem readsBack_struct {fields : List (String × Ast)} {extraKeys : ExtraKeys}
    (distinct : Entries.Distinct fields) (policy : extraKeys ≠ .include)
    (back : readFields (Ast.requiredNames fields) (propertiesOf fields) = .ok fields) :
    ReadsBack (.struct fields (Ast.requiredNames fields) extraKeys) := by
  have kept : extraKeysOf (some (.bool (extraKeys != .reject))) = extraKeys := by
    cases extraKeys with
    | reject | allow => rfl
    | _ => exact absurd rfl policy
  rw [ReadsBack, read_struct, back, kept]
  exact congrArg Except.ok (structOf_requiredNames distinct extraKeys)

private theorem readsBack_record {value : Ast} (back : ReadsBack value) :
    ReadsBack (.record .plainString value) := by
  rw [ReadsBack, read_record, back]
  rfl

private theorem readsBack_union {members : List Ast}
    (ofMembers : ∀ member ∈ members, member.Representable)
    (nullLast : ∀ second type, members = [.null, second] →
      Entries.get? "type" (membersOf second) = some (.string type) → second = .null)
    (back : ∀ member ∈ members, ReadsBack member) : ReadsBack (.union members) := by
  have widened {member : Ast} (inMembers : member ∈ members) (notNull : member ≠ .null)
      {wide : Entries Json} (h : nullable? (.object (membersOf member)) = some wide) :
      read (.object wide) = .ok (.union [member, .null]) := by
    obtain ⟨type, named, rfl⟩ := nullable?_eq_some_iff.1 h
    obtain ⟨free, null⟩ := type_membersOf (ofMembers member inMembers) named
    exact read_widened free named (notNull ∘ null) (back member inMembers)
  rcases membersOf_union_cases members with
    ⟨first, second, wide, rfl, nulls, notNull, h, eq⟩
    | ⟨first, second, wide, rfl, nulls, notNull, h, eq⟩ | eq
  · rw [isNull_iff (ofMembers first (by simp))] at nulls
    rw [isNull_iff (ofMembers second (by simp))] at notNull
    obtain ⟨type, named, -⟩ := nullable?_eq_some_iff.1 h
    subst nulls
    exact absurd (nullLast second type rfl named) notNull
  · rw [isNull_iff (ofMembers second (by simp))] at nulls
    rw [isNull_iff (ofMembers first (by simp))] at notNull
    subst nulls
    rw [ReadsBack, eq]
    exact widened (by simp) notNull h
  · rw [ReadsBack, eq, read_anyOf, schemasOf_eq, readList_map back]
    rfl

private theorem readsBack_discriminatedUnion {discriminator : String} {variants : Entries Ast}
    (nonempty : variants ≠ []) (distinct : Entries.Distinct variants)
    (tagged : Tagged discriminator variants)
    (back : ∀ tag variant, (tag, variant) ∈ variants → ReadsBack variant) :
    ReadsBack (.discriminatedUnion discriminator variants) := by
  have alternatives : readList (variantSchemas variants) = .ok (Entries.values variants) := by
    have schemas : variantSchemas variants =
        (Entries.values variants).map fun ast ↦ .object (membersOf ast) := by
      simp [variantSchemas_eq, Entries.values]
    rw [schemas]
    refine readList_map fun ast member ↦ ?_
    obtain ⟨⟨tag, variant⟩, inVariants, rfl⟩ := List.mem_map.1 member
    exact back tag variant inVariants
  rw [ReadsBack, membersOf, read_object]
  show (readListUnder "oneOf" _ >>= _) = _
  rw [readListUnder_eq]
  show (readList (variantSchemas variants) >>= _) = _
  rw [alternatives]
  exact unionOfAlternatives_values nonempty distinct tagged

/-- The schema of a representable description reads back. -/
theorem read_membersOf {ast : Ast} (h : ast.Representable) :
    read (.object (membersOf ast)) = .ok ast := by
  induction h with
  | string c => exact readsBack_string c
  | number c =>
    refine Eq.trans (read_typed (keys_numeric c) rfl) ?_
    show Except.ok (Ast.number (numericConstraintsOf (numericMembers "number" c))) = _
    rw [numericConstraintsOf_numericMembers]
  | integer c =>
    refine Eq.trans (read_typed (keys_numeric c) rfl) ?_
    show Except.ok (Ast.integer (numericConstraintsOf (numericMembers "integer" c))) = _
    rw [numericConstraintsOf_numericMembers]
  | boolean | null => rfl
  | literal nonempty free => exact readsBack_literal nonempty free
  | array _ noLength back => exact readsBack_array noLength back
  | tuple _ back => exact readsBack_tuple back
  | struct distinct policy _ ofOptional free required optional =>
    refine readsBack_struct distinct policy (readFields_propertiesOf distinct required ?_ free)
    exact fun name inner default member ↦
      ⟨ofOptional name inner default member, optional name inner default member⟩
  | record _ back => exact readsBack_record back
  | union ofMembers nullLast back => exact readsBack_union ofMembers nullLast back
  | @discriminatedUnion discriminator variants nonempty distinct _ tagged back =>
    refine readsBack_discriminatedUnion nonempty distinct (fun tag variant member ↦ ?_) back
    obtain ⟨before, value, after, required, extraKeys, rfl, first, rfl⟩ :=
      tagged tag variant member
    exact ⟨_, required, extraKeys, rfl, tagOf?_append first discriminator value after⟩

/-! ### Metadata -/

theorem keys_toMembers_sublist (metadata : Metadata) :
    (Entries.keys metadata.toMembers).Sublist ["$schema", "$id", "title", "description"] := by
  obtain ⟨id, title, description⟩ := metadata
  cases id <;> cases title <;> cases description <;>
    simp [Metadata.toMembers, Json.memberOf, List.Sublist.refl]

/-- Members that repeat no key read behind metadata as they do alone. -/
theorem read_foldl_metadata {members : Entries Json} (distinct : Entries.Distinct members)
    (metadata : Metadata) :
    read (.object (members.foldl (fun acc m ↦ Entries.insert m.1 m.2 acc) metadata.toMembers)) =
      read (.object members) := by
  refine read_congr fun key counts ↦ ?_
  have absent : Entries.get? key metadata.toMembers = none := by
    rw [Entries.get?_eq_none_iff]
    have passedOver : ∀ key ∈ ["$schema", "$id", "title", "description"], key ∈ annotations := by
      decide
    exact fun member ↦ counts (passedOver key ((keys_toMembers_sublist metadata).subset member))
  rw [Entries.get?_foldl_insert distinct, absent, Option.or_none]

/-- Metadata stands in front of a schema and does not touch it. -/
theorem read_metadata {members : Entries Json} (keys : (Entries.keys members).Sublist keywords)
    (metadata : Metadata) :
    read (.object (members.foldl (fun acc m ↦ Entries.insert m.1 m.2 acc) metadata.toMembers)) =
      read (.object members) :=
  read_foldl_metadata ((by decide : keywords.Nodup).sublist keys) metadata

end JsonSchema

/-- A description that JSON Schema can express is read back from its document as it was, whatever
the metadata. -/
theorem Ast.ofJsonSchema_toJsonSchema {ast : Ast} (h : ast.Representable)
    (metadata : JsonSchema.Metadata) : Ast.ofJsonSchema (ast.toJsonSchema metadata) = .ok ast := by
  rw [Ast.ofJsonSchema, Ast.toJsonSchema, JsonSchema.read_metadata (JsonSchema.keys_membersOf h)]
  exact JsonSchema.read_membersOf h

/-- Books, with a subtitle that may be absent or null, and loose sheets by size. -/
def Ast.catalogue : Ast :=
  .discriminatedUnion "kind"
    [("book", .struct [("kind", .literal [.string "book"]), ("title", .string { min := some 1 }),
      ("subtitle", .optional (.union [.string {}, .null]) (some .null))] ["kind", "title"] .allow),
    ("sheets", .struct [("kind", .literal [.string "sheets"]),
      ("sizes", .record .plainString (.tuple [.integer {}, .number {}]))]
      ["kind", "sizes"] .reject)]

private theorem representable_catalogue : Ast.catalogue.Representable := by
  have constant (s : String) : (Ast.literal [.string s]).Representable :=
    .literal (by simp) (by simp [Value.SymbolFree])
  have string (c : StringConstraints) : (Ast.string c).Representable := .string c
  have text : (Ast.union [.string {}, .null]).Representable :=
    .union (by simpa using ⟨string _, .null⟩) (by simp)
  have sizes : (Ast.record .plainString (.tuple [.integer {}, .number {}])).Representable :=
    .record (.tuple (by simpa using ⟨.integer _, .number _⟩))
  refine .discriminatedUnion (by simp) (by decide) ?_ ?_
  · simp only [List.mem_cons, Prod.mk.injEq, List.not_mem_nil, or_false]
    rintro _ _ (⟨rfl, rfl⟩ | ⟨rfl, rfl⟩)
    · refine .struct (by decide) (by decide) ?_ ?_ ?_ <;>
        simp +contextual [or_imp, Ast.isOptional, constant, string, text, Value.SymbolFree]
    · refine .struct (by decide) (by decide) ?_ ?_ ?_ <;>
        simp +contextual [or_imp, Ast.isOptional, constant, sizes]
  · simp only [List.mem_cons, Prod.mk.injEq, List.not_mem_nil, or_false]
    rintro _ _ (⟨rfl, rfl⟩ | ⟨rfl, rfl⟩)
    · exact ⟨[], _, _, _, _, rfl, by simp, rfl⟩
    · exact ⟨[], _, _, _, _, rfl, by simp, rfl⟩

/-- The catalogue comes back from a document with an identifier and a title. -/
theorem Ast.ofJsonSchema_toJsonSchema_catalogue :
    Ast.catalogue.Representable
      ∧ Ast.ofJsonSchema
          (Ast.catalogue.toJsonSchema { id := some "catalogue", title := some "Stock" }) =
        .ok Ast.catalogue :=
  ⟨representable_catalogue, Ast.ofJsonSchema_toJsonSchema representable_catalogue _⟩

end Schemata
