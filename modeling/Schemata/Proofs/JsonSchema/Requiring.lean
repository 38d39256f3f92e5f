import Schemata.Proofs.JsonSchema.Importing
import Schemata.Proofs.Schema.Requiring

/-!
# Required properties

A JSON Schema may list any name as required. Reading it as a struct keeps those that are properties
(`JsonSchema.struct_of_read`), and what is built insists on exactly these: every object that decodes
has them. A name without a property is no field, so nothing looks for it, and an object decodes to
the same with it and without.
-/

namespace Schemata

namespace JsonSchema

/-- A schema lists a name as required. -/
def Lists (schema : Json) (name : String) : Prop :=
  ∃ names, schema.get? "required" = some (.array names) ∧ .string name ∈ names

/-- What is listed is read as required. -/
theorem Lists.mem_requiredOf {members : Entries Json} {name : String}
    (listed : Lists (.object members) name) : name ∈ requiredOf members := by
  obtain ⟨names, found, member⟩ := listed
  rw [requiredOf, show Entries.get? "required" members = some (.array names) from found]
  exact List.mem_filterMap.2 ⟨.string name, member, rfl⟩

end JsonSchema

/-- A struct that does not keep undeclared keys decodes to the same with such a key and without. -/
theorem decodeAt_struct_filter {references : References} {limit levels : Nat}
    {place : Option Place} {fields : List (String × Node)} {extraKeys : ExtraKeys}
    {input : Entries Value} {decoded : Value} {name : String}
    (isExtra : name ∉ Entries.keys fields) (notKept : extraKeys ≠ .include)
    (ok : decodeAt references limit levels (.struct place fields extraKeys) (.object input)
      = .ok decoded) :
    decodeAt references limit levels (.struct place fields extraKeys)
      (.object (input.filter fun entry ↦ entry.1 ≠ name)) = .ok decoded := by
  obtain ⟨l, _, out, rfl, eq, expected, oks, rfl⟩ := decodeAt_struct.1 ok
  cases eq
  refine decodeAt_struct.2 ⟨l, _, out, rfl, rfl, fun reject ↦ ?_, ?_, ?_⟩
  · rw [undeclared_eq_nil_iff]
    intro key member
    apply undeclared_eq_nil_iff.1 (expected reject)
    exact (List.filter_sublist.map Prod.fst).subset member
  · apply decodeFields_of_agree _ oks
    intro key declared
    have other : key ≠ name := fun eq ↦ isExtra (eq ▸ declared)
    rw [Entries.get?_filter_keys (fun k ↦ decide (k ≠ name)), if_pos (decide_eq_true other)]
  · rw [if_neg notKept, if_neg notKept]

/-! ### Structs that are read -/

/-- What is built from an imported description is optional only where that says so. -/
theorem Ast.Imported.buildsOptional_eq {ast : Ast} (imported : ast.Imported) :
    ast.buildsOptional = ast.isOptional := by
  cases ast with
  | transform => exact imported.elim
  | _ => rfl

/-- A schema built from a struct that was read from JSON Schema accepts objects only. Every name
that is listed as required and is a property is a key of what it accepts; a name that is listed and
is no property is not asked for, and changes nothing where it is. Only schemas of type `object` are
read as a struct. -/
theorem Schema.listed_present {document : Json} (formed : document.WellFormed)
    {fields : Entries Ast} {required : List String} {extraKeys : ExtraKeys}
    (imported : Ast.ofJsonSchema document = .ok (.struct fields required extraKeys))
    {schema : Schema} (built : Schema.ofAst (.struct fields required extraKeys) = .ok schema)
    {name : String} (listed : JsonSchema.Lists document name) {value decoded : Value}
    {maxDepth : Nat} (ok : schema.decode value maxDepth = .ok decoded) :
    ∃ input, value = .object input
      ∧ (name ∈ JsonSchema.propertyNames document → name ∈ Entries.keys input)
      ∧ (name ∉ JsonSchema.propertyNames document →
        schema.decode (.object (input.filter fun entry ↦ entry.1 ≠ name)) maxDepth
          = .ok decoded) := by
  cases document with
  | object members =>
    obtain ⟨names, kept, notKept⟩ := JsonSchema.struct_of_read imported
    obtain ⟨all, -⟩ := JsonSchema.imported_read formed imported
    obtain ⟨distinct, -, optional⟩ := all.here
    obtain ⟨nodes, resolved, keys, -⟩ := Schema.struct_at built .root
    have root : schema.root = .struct (some []) nodes extraKeys := by
      rw [← resolved, References.resolve, Schema.root_of_ofAst built]
      rfl
    have okStruct := ok
    rw [Schema.decode, root] at okStruct
    obtain ⟨l, input, out, -, rfl, -, oks, -⟩ := decodeAt_struct.1 okStruct
    refine ⟨input, rfl, fun isProperty ↦ ?_, fun noProperty ↦ ?_⟩
    · have inRequired : name ∈ required := by
        rw [kept, List.mem_filter, names]
        exact ⟨isProperty, List.contains_iff_mem.2 listed.mem_requiredOf⟩
      obtain ⟨field, found, notOptional⟩ := (optional name).1 inRequired
      have declared := Entries.mem_of_get?_eq_some found
      have here : field.Imported := (all.child (List.mem_map_of_mem declared)).here
      obtain ⟨nodes', resolved', insists⟩ :=
        Schema.mem_requiredNames_of_at built .root distinct declared
      rw [resolved] at resolved'
      cases resolved'
      exact mem_keys_of_decodeFields oks
        (insists.2 ⟨inRequired, by rw [here.buildsOptional_eq, notOptional]⟩)
    · rw [Schema.decode, root]
      exact decodeAt_struct_filter (by rwa [keys, names]) notKept okStruct
  | _ => cases imported

/-- A server: its name is required, its port is not, and a note is listed but no property. -/
def JsonSchema.server : Json :=
  .object [("type", .string "object"),
    ("properties", .object [("name", .object [("type", .string "string")]),
      ("port", .object [("type", .string "integer")])]),
    ("required", .array [.string "name", .string "note"]), ("additionalProperties", .bool true)]

/-- A server that is accepted has a name, and it may do without the note. -/
theorem Schema.listed_present_server :
    ∃ schema decoded, Ast.ofJsonSchema JsonSchema.server =
        .ok (.struct [("name", .plainString), ("port", .optional (.integer {}) none)] ["name"]
          .allow)
      ∧ ofAst (.struct [("name", .plainString), ("port", .optional (.integer {}) none)] ["name"]
          .allow) = .ok schema
      ∧ schema.decode (.object [("note", .null), ("name", .string "a")]) = .ok decoded
      ∧ "name" ∈ Entries.keys [("note", Value.null), ("name", .string "a")]
      ∧ schema.decode (.object [("name", .string "a")]) = .ok decoded := by
  have formed : JsonSchema.server.WellFormed := by
    simp [JsonSchema.server, Json.WellFormed, Json.WellFormedItems, Json.WellFormedMembers,
      Entries.Distinct]
  have listed : ∀ name ∈ ["name", "note"], JsonSchema.Lists JsonSchema.server name :=
    fun name among ↦ ⟨[.string "name", .string "note"], rfl, by simpa using among⟩
  obtain ⟨schema, built⟩ : ∃ schema, ofAst (.struct [("name", .plainString),
      ("port", .optional (.integer {}) none)] ["name"] .allow) = .ok schema := ⟨_, rfl⟩
  obtain ⟨decoded, ok⟩ : ∃ decoded,
      schema.decode (.object [("note", .null), ("name", .string "a")]) = .ok decoded := by
    cases built
    exact ⟨_, rfl⟩
  obtain ⟨_, eq, present, -⟩ := listed_present formed rfl built (listed "name" (by simp)) ok
  cases eq
  obtain ⟨_, eq, -, unasked⟩ := listed_present formed rfl built (listed "note" (by simp)) ok
  cases eq
  exact ⟨schema, decoded, rfl, built, ok, present (by decide), unasked (by decide)⟩

/-- A name is listed, no property has it, and the empty object is accepted. -/
theorem Schema.listed_absent :
    let document : Json :=
      .object [("type", .string "object"), ("required", .array [.string "a"])]
    ∃ schema, document.WellFormed ∧ Ast.ofJsonSchema document = .ok (.struct [] [] .reject)
      ∧ ofAst (.struct [] [] .reject) = .ok schema ∧ JsonSchema.Lists document "a"
      ∧ schema.decode (.object []) = .ok (.object [])
      ∧ "a" ∉ Entries.keys ([] : Entries Value) := by
  refine ⟨_, ?_, rfl, rfl, ⟨[.string "a"], rfl, by simp⟩, rfl, by simp⟩
  simp [Json.WellFormed, Json.WellFormedItems, Json.WellFormedMembers, Entries.Distinct]

end Schemata
