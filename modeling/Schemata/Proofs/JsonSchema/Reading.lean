import Schemata.JsonSchema.Import
import Schemata.Proofs.Entries

/-!
# What reading JSON Schema depends on

Reading a schema object looks its keywords up and nothing else, so members under other keys, and the
order of the members, do not matter (`read_congr`). A schema that widens its type by null reads as
the union of what it reads as without (`read_widened`).
-/

namespace Schemata

namespace JsonSchema

/-- The keywords that do not change how a schema is read. The default is read by the struct that the
schema is a property of. -/
def annotations : List String := ["$schema", "$id", "title", "description", "default"]

/-- The keywords that decide the form of a schema before its type does. -/
def deciding : List String := ["oneOf", "anyOf", "const", "enum", "$ref"]

/-- Two schemas hold the same under all keys but some. -/
def AgreeOff (ignored : List String) (ms ms' : Entries Json) : Prop :=
  ∀ key, key ∉ ignored → Entries.get? key ms = Entries.get? key ms'

theorem AgreeOff.mono {ignored more : List String} {ms ms' : Entries Json}
    (h : AgreeOff ignored ms ms') (sub : ∀ key ∈ ignored, key ∈ more) : AgreeOff more ms ms' :=
  fun key absent ↦ h key fun member ↦ absent (sub key member)

theorem AgreeOff.contains {ignored : List String} {ms ms' : Entries Json}
    (h : AgreeOff ignored ms ms') {key : String} (counts : key ∉ ignored) :
    Entries.contains key ms = Entries.contains key ms' := by
  rw [Entries.contains, Entries.contains, h key counts]

/-! ### Look-ups -/

theorem readUnder_eq (keyword : String) (members : List (String × Json)) :
    readUnder keyword members =
      match Entries.get? keyword members with
      | none => .ok .plainString
      | some schema => read schema := by
  induction members with
  | nil => rfl
  | cons m rest ih =>
    obtain ⟨k, schema⟩ := m
    rw [readUnder, Entries.get?_cons]
    split
    · rfl
    · exact ih

theorem readListUnder_eq (keyword : String) (members : List (String × Json)) :
    readListUnder keyword members =
      match Entries.get? keyword members with
      | some (.array items) => readList items
      | _ => refuse (.notAnArray keyword) := by
  induction members with
  | nil => rfl
  | cons m rest ih =>
    obtain ⟨k, schemas⟩ := m
    unfold readListUnder
    rw [Entries.get?_cons]
    split
    · cases schemas <;> rfl
    · exact ih

theorem readFieldsUnder_eq (required : List String) (members : List (String × Json)) :
    readFieldsUnder required members =
      match Entries.get? "properties" members with
      | some (.object properties) => readFields required properties
      | _ => .ok [] := by
  induction members with
  | nil => rfl
  | cons m rest ih =>
    obtain ⟨k, schemas⟩ := m
    unfold readFieldsUnder
    rw [Entries.get?_cons]
    split
    · cases schemas <;> rfl
    · exact ih

/-- A list of schemas is read one by one. -/
theorem forall₂_of_readList {schemas : List Json} {asts : List Ast}
    (ok : readList schemas = .ok asts) :
    List.Forall₂ (fun schema ast ↦ read schema = .ok ast) schemas asts := by
  induction schemas generalizing asts with
  | nil =>
    cases ok
    exact .nil
  | cons schema rest ih =>
    obtain ⟨ast, here, later⟩ := bind_eq_ok_iff.1 ok
    obtain ⟨asts, tail, last⟩ := bind_eq_ok_iff.1 later
    cases last
    exact .cons here (ih tail)

/-- Properties are read one by one, and those outside the required names marked. -/
theorem forall₂_of_readFields {required : List String} {properties : Entries Json}
    {fields : Entries Ast} (ok : readFields required properties = .ok fields) :
    List.Forall₂ (fun property field ↦ property.1 = field.1 ∧ ∃ ast,
      read property.2 = .ok ast ∧ field.2 = fieldOf required property.1 property.2 ast)
      properties fields := by
  induction properties generalizing fields with
  | nil =>
    cases ok
    exact .nil
  | cons property rest ih =>
    obtain ⟨name, schema⟩ := property
    obtain ⟨ast, here, later⟩ := bind_eq_ok_iff.1 ok
    obtain ⟨fields, tail, last⟩ := bind_eq_ok_iff.1 later
    cases last
    exact .cons ⟨rfl, ast, here, rfl⟩ (ih tail)

/-- Read the children of a node whose form is known. -/
def readPlan (members : Entries Json) (plan : Plan) : Except SchemaError Ast :=
  match plan.form with
  | .oneOf => do unionOfAlternatives (← readListUnder "oneOf" members)
  | .anyOf => do return .union (← readListUnder "anyOf" members)
  | .leaf ast => return plan.finish ast
  | .tuple => do return plan.finish (.tuple (← readListUnder "prefixItems" members))
  | .array _ c => do return plan.finish (.array (← readUnder "items" members) c)
  | .record true => do
    return plan.finish (.record .plainString (← readUnder "additionalProperties" members))
  | .record false => return plan.finish (.record .plainString .plainString)
  | .struct required extraKeys => do
    return plan.finish (structOf required extraKeys (← readFieldsUnder required members))

theorem read_object (members : List (String × Json)) :
    read (.object members) = (planOf members).bind (readPlan members) := by
  rw [read]
  cases planOf members with
  | error e => rfl
  | ok plan =>
    obtain ⟨form, nullable⟩ := plan
    cases form <;> rfl

/-! ### Congruence -/

variable {ms ms' : Entries Json}

private theorem objectForm_congr (h : AgreeOff ("type" :: annotations) ms ms') :
    objectForm ms = objectForm ms' := by
  simp only [objectForm, requiredOf]
  rw [h "required" (by decide), h "additionalProperties" (by decide), h "properties" (by decide)]

/-- The form that a type decides does not depend on how the type is written. -/
theorem typedForm_congr (h : AgreeOff ("type" :: annotations) ms ms') (type : String) :
    typedForm type ms = typedForm type ms' := by
  rw [typedForm.eq_def, typedForm.eq_def type ms', objectForm_congr h, h.contains (by decide),
    h.contains (by decide)]
  simp only [stringConstraintsOf, numericConstraintsOf, arrayConstraintsOf, countOf, numberOf]
  rw [h "minLength" (by decide), h "maxLength" (by decide), h "pattern" (by decide),
    h "minimum" (by decide), h "maximum" (by decide), h "exclusiveMinimum" (by decide),
    h "exclusiveMaximum" (by decide), h "multipleOf" (by decide), h "minItems" (by decide),
    h "maxItems" (by decide), h "uniqueItems" (by decide)]

theorem planOf_congr (h : AgreeOff annotations ms ms') : planOf ms = planOf ms' := by
  have typed := typedForm_congr (h.mono fun _ ↦ List.mem_cons_of_mem "type")
  rw [planOf, planOf, h.contains (by decide), h.contains (by decide), h.contains (by decide),
    h "const" (by decide), h "enum" (by decide), planByType, planByType, h "type" (by decide)]
  simp only [typed]

theorem readPlan_congr (h : AgreeOff ("type" :: annotations) ms ms') :
    readPlan ms = readPlan ms' := by
  funext plan
  simp only [readPlan, readListUnder_eq, readUnder_eq, readFieldsUnder_eq]
  rw [h "oneOf" (by decide), h "anyOf" (by decide), h "prefixItems" (by decide),
    h "items" (by decide), h "additionalProperties" (by decide), h "properties" (by decide)]

/-- Annotations and the order of members do not matter. -/
theorem read_congr (h : AgreeOff annotations ms ms') : read (.object ms) = read (.object ms') := by
  rw [read_object, read_object, planOf_congr h,
    readPlan_congr (h.mono fun _ ↦ List.mem_cons_of_mem "type")]

/-! ### Types -/

theorem planOf_of_not_deciding (free : ∀ key ∈ deciding, Entries.get? key ms = none) :
    planOf ms = planByType ms := by
  simp [planOf, Entries.contains, free "oneOf" (by decide), free "anyOf" (by decide),
    free "const" (by decide), free "enum" (by decide), free "$ref" (by decide)]

/-- Without a keyword that decides before it, the type decides. -/
theorem read_of_type {type : String} (free : ∀ key ∈ deciding, Entries.get? key ms = none)
    (named : Entries.get? "type" ms = some (.string type)) :
    read (.object ms) = (typedForm type ms).bind fun form ↦ readPlan ms { form } := by
  rw [read_object, planOf_of_not_deciding free]
  simp only [planByType, named]
  cases typedForm type ms <;> rfl

/-- A type decides for none of the forms of alternatives. -/
theorem typedForm_ne {type : String} {form : Form} (ok : typedForm type ms = .ok form) :
    form ≠ .oneOf ∧ form ≠ .anyOf := by
  rw [typedForm.eq_def] at ok
  split at ok
  · cases ok; simp
  · cases ok; simp
  · cases ok; simp
  · cases ok; simp
  · cases ok; simp
  · split at ok <;> cases ok <;> simp
  · cases ok
    simp only [objectForm]
    split
    · simp
    · split <;> simp
  · cases ok

/-- Null beside the form of a type gives a union. -/
theorem readPlan_nullable {form : Form} (ne : form ≠ .oneOf ∧ form ≠ .anyOf) {ast : Ast}
    (ok : readPlan ms { form } = .ok ast) :
    readPlan ms { form, nullable := true } = .ok (.union [ast, .null]) := by
  cases form with
  | oneOf => exact absurd rfl ne.1
  | anyOf => exact absurd rfl ne.2
  | leaf =>
    cases ok
    rfl
  | record hasSchema =>
    cases hasSchema with
    | true =>
      obtain ⟨value, okValue, eq⟩ := bind_eq_ok_iff.1 ok
      cases eq
      exact bind_eq_ok_iff.2 ⟨value, okValue, rfl⟩
    | false =>
      cases ok
      rfl
  | _ =>
    obtain ⟨children, okChildren, eq⟩ := bind_eq_ok_iff.1 ok
    cases eq
    exact bind_eq_ok_iff.2 ⟨children, okChildren, rfl⟩

/-- Widening the type of a schema changes nothing else. -/
theorem agreeOff_widened (type : String) : AgreeOff ("type" :: annotations) ms
    (Entries.insert "type" (.array [.string type, .string "null"]) ms) :=
  fun _ counts ↦ (Entries.get?_insert_of_ne (fun eq ↦ counts (by simp [eq])) _ ms).symm

theorem get?_widened (free : ∀ key ∈ deciding, Entries.get? key ms = none) (type : String) :
    ∀ key ∈ deciding, Entries.get? key
      (Entries.insert "type" (.array [.string type, .string "null"]) ms) = none := by
  intro key member
  rw [← agreeOff_widened type key (by revert key; decide)]
  exact free key member

/-- A schema whose type is widened by null reads as a union with null. -/
theorem read_widened {type : String} (free : ∀ key ∈ deciding, Entries.get? key ms = none)
    (named : Entries.get? "type" ms = some (.string type)) (notNull : type ≠ "null") {ast : Ast}
    (ok : read (.object ms) = .ok ast) :
    read (.object (Entries.insert "type" (.array [.string type, .string "null"]) ms)) =
      .ok (.union [ast, .null]) := by
  rw [read_of_type free named] at ok
  obtain ⟨form, okForm, okPlan⟩ := bind_eq_ok_iff.1 ok
  rw [read_object, planOf_of_not_deciding (get?_widened free type)]
  simp only [planByType, Entries.get?_insert_self, besideNull?, notNull, if_false, if_true]
  rw [← typedForm_congr (agreeOff_widened type), okForm, ← readPlan_congr (agreeOff_widened type)]
  exact readPlan_nullable (typedForm_ne okForm) okPlan

/-- The form of a type is read beside null only if it is read without. -/
theorem exists_readPlan_of_nullable {form : Form} {wide : Ast}
    (ok : readPlan ms { form, nullable := true } = .ok wide) :
    ∃ ast, readPlan ms { form } = .ok ast := by
  cases form with
  | oneOf => exact ⟨wide, ok⟩
  | leaf ast => exact ⟨ast, rfl⟩
  | record hasSchema =>
    cases hasSchema with
    | true =>
      obtain ⟨value, okValue, -⟩ := bind_eq_ok_iff.1 ok
      exact ⟨_, bind_eq_ok_iff.2 ⟨value, okValue, rfl⟩⟩
    | false => exact ⟨_, rfl⟩
  | _ =>
    obtain ⟨children, okChildren, -⟩ := bind_eq_ok_iff.1 ok
    exact ⟨_, bind_eq_ok_iff.2 ⟨children, okChildren, rfl⟩⟩

/-- A schema whose type is widened by null is read only if the schema itself is, and then as its
union with null. -/
theorem exists_read_of_widened {type : String}
    (free : ∀ key ∈ deciding, Entries.get? key ms = none)
    (named : Entries.get? "type" ms = some (.string type)) {wide : Ast}
    (ok : read (.object (Entries.insert "type" (.array [.string type, .string "null"]) ms)) =
      .ok wide) :
    ∃ ast, read (.object ms) = .ok ast ∧ wide = .union [ast, .null] := by
  rw [read_object, planOf_of_not_deciding (get?_widened free type), planByType,
    Entries.get?_insert_self] at ok
  obtain ⟨plan, planned, okPlan⟩ := bind_eq_ok_iff.1 ok
  by_cases null : type = "null"
  · subst null
    cases planned
  · simp only [besideNull?, null, if_false, if_true] at planned
    obtain ⟨form, okForm, last⟩ := bind_eq_ok_iff.1 planned
    cases last
    rw [← typedForm_congr (agreeOff_widened type)] at okForm
    rw [← readPlan_congr (agreeOff_widened type)] at okPlan
    obtain ⟨ast, okNarrow⟩ := exists_readPlan_of_nullable okPlan
    have widened := readPlan_nullable (typedForm_ne okForm) okNarrow
    refine ⟨ast, ?_, Except.ok.inj (okPlan.symm.trans widened)⟩
    rw [read_of_type free named, okForm]
    exact okNarrow

end JsonSchema

end Schemata
