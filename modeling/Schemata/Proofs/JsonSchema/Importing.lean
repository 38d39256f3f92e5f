import Schemata.Proofs.Ast
import Schemata.Proofs.Json
import Schemata.Proofs.JsonSchema.Reading

/-!
# What reading JSON Schema gives

Whatever schema is read, its description satisfies at every node what declaring a schema asks for
(`Ast.Imported`): the required names of a struct are those of its fields that are not optional, and
each variant of a discriminated union is a struct that holds its tag. The discriminator is found by
looking at the alternatives (`findTags`) and the tags that are missing are put in afterwards
(`withTag`); the invariant holds of both kinds of variants.
-/

namespace Schemata

namespace Ast

/-- The required names of a struct are distinct, and they are the names of the fields that are not
optional. -/
def RequiredListed : Ast → Prop
  | .struct fields required _ => required.Nodup ∧ ∀ name, name ∈ required ↔
      ∃ field, Entries.get? name fields = some field ∧ field.isOptional = false
  | _ => True

/-- A struct that holds, as its discriminator, one value whose key is the tag. -/
def TaggedBy (discriminator tag : String) (ast : Ast) : Prop :=
  ∃ fields required extraKeys value, ast = .struct fields required extraKeys
    ∧ Entries.get? discriminator fields = some (.literal [value]) ∧ value.toKey = tag

/-- A node that reading JSON Schema can give. -/
def Imported : Ast → Prop
  | .literal values => values ≠ [] ∧ ∀ value ∈ values, value.SymbolFree ∧ value.WellFormed
  | .struct fields required extraKeys =>
    Entries.Distinct fields ∧ (Ast.struct fields required extraKeys).RequiredListed
  | .record key _ => key = .plainString
  | .union members => ∀ member ∈ members, member.isOptional = false
  | .discriminatedUnion discriminator variants => variants ≠ [] ∧ Entries.Distinct variants
      ∧ ∀ tag variant, (tag, variant) ∈ variants → variant.TaggedBy discriminator tag
  | .optional inner default => inner.isOptional = false
      ∧ ∀ value, default = some value → value.SymbolFree ∧ value.WellFormed
  | .symbol | .transform _ _ | .lazy _ _ _ => False
  | _ => True

theorem Imported.leaf {ast : Ast} (here : ast.Imported) (noChild : ast.children = []) :
    ast.All Imported :=
  .intro here (by simp [noChild])

end Ast

namespace JsonSchema

open Entries (Distinct)

variable {ms : Entries Json}

/-! ### Plans -/

/-- A schema is planned for its alternatives, its constants or its type. -/
private theorem planOf_cases {plan : Plan} (ok : planOf ms = .ok plan) :
    plan = { form := .oneOf } ∨ plan = { form := .anyOf }
      ∨ (∃ doc, Entries.get? "const" ms = some doc
        ∧ plan = { form := .leaf (.literal [.ofJson doc]) })
      ∨ (∃ docs, docs ≠ [] ∧ Entries.get? "enum" ms = some (.array docs)
        ∧ plan = { form := .leaf (.literal (docs.map Value.ofJson)) })
      ∨ ∃ type form nullable, typedForm type ms = .ok form ∧ plan = { form, nullable } := by
  unfold planOf at ok
  split at ok
  · cases ok
    exact .inl rfl
  split at ok
  · cases ok
    exact .inr (.inl rfl)
  split at ok
  · next doc found =>
    cases ok
    exact .inr (.inr (.inl ⟨doc, found, rfl⟩))
  · next doc docs _ found =>
    cases ok
    rw [Value.ofJsonItems_eq]
    exact .inr (.inr (.inr (.inl ⟨doc :: docs, by simp, found, rfl⟩)))
  · cases ok
  · refine .inr (.inr (.inr (.inr ?_)))
    split at ok
    · cases ok
    unfold planByType at ok
    split at ok
    · next type _ =>
      obtain ⟨form, typed, last⟩ := bind_eq_ok_iff.1 ok
      cases last
      exact ⟨type, form, false, typed, rfl⟩
    · split at ok
      · next type _ =>
        obtain ⟨form, typed, last⟩ := bind_eq_ok_iff.1 ok
        cases last
        exact ⟨type, form, true, typed, rfl⟩
      · cases ok
    · cases ok
    · cases ok

/-- A type without children is one of the plain ones. -/
private theorem imported_of_typedForm {type : String} {ast : Ast}
    (ok : typedForm type ms = .ok (.leaf ast)) :
    ast.All Ast.Imported ∧ ast.isOptional = false ∧ ast.kind ≠ .struct := by
  rw [typedForm.eq_def] at ok
  split at ok
  case h_6 => split at ok <;> cases ok
  case h_7 =>
    rw [objectForm] at ok
    split at ok
    · cases ok
    · split at ok <;> cases ok
  case h_8 => cases ok
  all_goals
    cases ok
    exact ⟨Ast.Imported.leaf trivial rfl, rfl, by simp [Ast.kind]⟩

/-! ### Structs -/

private theorem readFields_cases {required : List String} {properties : Entries Json}
    {fields : Entries Ast} (ok : readFields required properties = .ok fields) :
    Entries.keys fields = Entries.keys properties ∧ ∀ name field, (name, field) ∈ fields →
      ∃ schema ast, schema ∈ Entries.values properties ∧ read schema = .ok ast
        ∧ field = fieldOf required name schema ast := by
  have each := forall₂_of_readFields ok
  refine ⟨?_, fun name field member ↦ ?_⟩
  · have named := Entries.keys_eq_of_forall₂ (r := fun _ _ ↦ True)
      (each.imp fun _ _ read ↦ ⟨read.1, trivial⟩)
    exact named.symm
  · obtain ⟨⟨_, schema⟩, among, rfl, ast, reads, made⟩ := forall₂_exists_of_mem each.flip member
    exact ⟨schema, ast, List.mem_map.2 ⟨_, among, rfl⟩, reads, made⟩

private theorem imported_structOf {required : List String} {extraKeys : ExtraKeys}
    {properties : Entries Json} {fields : Entries Ast} (distinct : Distinct properties)
    (formed : ∀ schema ∈ Entries.values properties, schema.WellFormed)
    (each : ∀ schema ∈ Entries.values properties, ∀ ast, read schema = .ok ast →
      ast.All Ast.Imported ∧ ast.isOptional = false)
    (ok : readFields required properties = .ok fields) :
    (structOf required extraKeys fields).All Ast.Imported := by
  obtain ⟨names, made⟩ := readFields_cases ok
  have distinctFields : Distinct fields := by rwa [Distinct, names]
  have optional {name : String} {field : Ast} (member : (name, field) ∈ fields) :
      field.isOptional = !required.contains name := by
    obtain ⟨schema, ast, among, reads, rfl⟩ := made name field member
    rw [fieldOf]
    split
    · next listed => rw [(each schema among ast reads).2, listed, Bool.not_true]
    · next unlisted =>
      rw [eq_false_of_ne_true unlisted]
      rfl
  refine .intro ⟨distinctFields, distinctFields.sublist List.filter_sublist, fun name ↦ ?_⟩ ?_
  · rw [List.mem_filter]
    constructor
    · rintro ⟨isName, listed⟩
      obtain ⟨⟨_, field⟩, member, rfl⟩ := List.mem_map.1 isName
      refine ⟨field, Entries.get?_eq_some_of_mem distinctFields member, ?_⟩
      rw [optional member, listed, Bool.not_true]
    · rintro ⟨field, found, notOptional⟩
      have member := Entries.mem_of_get?_eq_some found
      refine ⟨Entries.mem_keys member, ?_⟩
      rwa [optional member, Bool.not_eq_false'] at notOptional
  · intro child among
    obtain ⟨⟨name, field⟩, member, rfl⟩ := List.mem_map.1 among
    obtain ⟨schema, ast, amongSchemas, reads, rfl⟩ := made name field member
    obtain ⟨imported, notOptional⟩ := each schema amongSchemas ast reads
    show (fieldOf required name schema ast).All Ast.Imported
    rw [fieldOf]
    split
    · exact imported
    · refine .intro ⟨notOptional, fun value eq ↦ ?_⟩ (by simpa [Ast.children] using imported)
      obtain ⟨doc, found, rfl⟩ := Option.map_eq_some_iff.1 eq
      cases schema with
      | object members =>
        have inside := Json.mem_children_of_get? found
        exact ⟨Value.symbolFree_ofJson doc,
          Value.wellFormed_ofJson ((formed _ amongSchemas).child inside)⟩
      | _ => cases found

/-! ### Alternatives -/

/-- The tag of some fields is that of the first constant among them. -/
theorem exists_split_of_tagOf? {fields : Entries Ast} {discriminator tag : String}
    (found : tagOf? fields = some (discriminator, tag)) :
    ∃ before value after, fields = before ++ (discriminator, .literal [value]) :: after
      ∧ (∀ field ∈ before, ∀ v, field.2 ≠ .literal [v]) ∧ value.toKey = tag := by
  induction fields with
  | nil => cases found
  | cons field rest ih =>
    unfold tagOf? at found
    split at found
    · next eq => cases eq
    · next name value _ eq =>
      cases found
      cases eq
      exact ⟨[], value, rest, rfl, by simp, rfl⟩
    · next other _ notConstant eq =>
      cases eq
      obtain ⟨before, value, after, rfl, first, key⟩ := ih found
      refine ⟨field :: before, value, after, rfl, List.forall_mem_cons.2 ⟨fun v literal ↦ ?_, first⟩,
        key⟩
      exact notConstant field.1 v (by rw [← literal])

theorem tagOf?_ne_none {fields : Entries Ast} {name : String} {value : Value}
    (member : (name, .literal [value]) ∈ fields) : tagOf? fields ≠ none := by
  obtain ⟨before, after, rfl⟩ := List.append_of_mem member
  induction before with
  | nil => simp [tagOf?]
  | cons field rest ih =>
    rw [List.cons_append, tagOf?.eq_def]
    split
    · next eq => cases eq
    · simp
    · next eq =>
      cases eq
      exact ih (by simp)

/-- Alternatives are structs, and the first constants of those that have one stand under the
discriminator. -/
theorem findTags_cases {discriminator : String} {i : Nat} {shared : Option String}
    {asts : List Ast} {tags : List (Option String)}
    (ok : findTags i shared asts = .ok (some discriminator, tags)) :
    (shared = none → asts ≠ []) ∧ (∀ expected, shared = some expected → expected = discriminator)
      ∧ List.Forall₂ (fun ast tag? ↦ ∃ fields required extraKeys,
        ast = .struct fields required extraKeys
          ∧ tagOf? fields = tag?.map (Prod.mk discriminator)) asts tags := by
  induction asts generalizing i shared tags with
  | nil =>
    cases ok
    exact ⟨nofun, fun _ eq ↦ (Option.some.inj eq).symm, .nil⟩
  | cons ast rest ih =>
    cases ast with
    | struct fields required extraKeys =>
      rw [findTags] at ok
      cases found : tagOf? fields with
      | none =>
        simp only [found] at ok
        obtain ⟨⟨_, later⟩, tail, last⟩ := bind_eq_ok_iff.1 ok
        cases last
        obtain ⟨-, agrees, fit⟩ := ih tail
        exact ⟨fun _ ↦ by simp, agrees, .cons ⟨fields, required, extraKeys, rfl, found⟩ fit⟩
      | some named =>
        obtain ⟨name, tag⟩ := named
        have step : (∀ expected, shared = some expected → expected = name) ∧
            ∃ later, findTags (i + 1) (some name) rest = .ok (some discriminator, later)
              ∧ tags = some tag :: later := by
          simp only [found] at ok
          split at ok
          · next expected =>
            split at ok
            · cases ok
            · next agrees =>
              obtain ⟨⟨_, later⟩, tail, last⟩ := bind_eq_ok_iff.1 ok
              cases last
              exact ⟨fun _ eq ↦ (Option.some.inj eq) ▸ not_not.1 agrees, later, tail, rfl⟩
          · obtain ⟨⟨_, later⟩, tail, last⟩ := bind_eq_ok_iff.1 ok
            cases last
            exact ⟨nofun, later, tail, rfl⟩
        obtain ⟨agreesHere, later, tail, rfl⟩ := step
        obtain ⟨-, agrees, fit⟩ := ih tail
        obtain rfl : name = discriminator := agrees name rfl
        exact ⟨fun _ ↦ by simp, agreesHere, .cons ⟨fields, required, extraKeys, rfl, found⟩ fit⟩
    | _ => cases ok

/-- An alternative that is given a tag is a struct with the tag, whatever stood in its place. -/
private theorem imported_withTag {fields : Entries Ast} {required : List String}
    {extraKeys : ExtraKeys} (imported : (Ast.struct fields required extraKeys).All Ast.Imported)
    (discriminator tag : String) :
    (withTag discriminator tag (.struct fields required extraKeys)).All Ast.Imported
      ∧ (withTag discriminator tag (.struct fields required extraKeys)).TaggedBy
        discriminator tag := by
  obtain ⟨distinct, nodup, listed⟩ := imported.here
  have found := Entries.get?_insert_self discriminator (Ast.literal [.string tag]) fields
  refine ⟨.intro ⟨distinct.insert _ _, ?_, fun name ↦ ?_⟩ ?_, _, _, _, _, rfl, found, rfl⟩
  · split
    · exact nodup
    · next absent =>
      have new : discriminator ∉ required := by simpa using absent
      exact List.nodup_append.2 ⟨nodup, by simp, by
        rintro name isRequired _ inLast rfl
        exact new (List.mem_singleton.1 inLast ▸ isRequired)⟩
  · have inAll : (name ∈ if required.contains discriminator = true then required
        else required ++ [discriminator]) ↔ name ∈ required ∨ name = discriminator := by
      split
      · next present =>
        have among : discriminator ∈ required := by simpa using present
        exact ⟨.inl, fun h ↦ h.elim id fun eq ↦ eq ▸ among⟩
      · simp
    rw [inAll]
    by_cases same : name = discriminator
    · subst same
      exact ⟨fun _ ↦ ⟨_, found, rfl⟩, fun _ ↦ .inr rfl⟩
    · rw [Entries.get?_insert_of_ne same, ← listed]
      simp [same]
  · intro child among
    obtain ⟨entry, member, rfl⟩ := List.mem_map.1 among
    rcases Entries.mem_insert member with rfl | old
    · exact Ast.Imported.leaf (by simp [Ast.Imported, Value.SymbolFree, Value.WellFormed]) rfl
    · exact imported.child (List.mem_map_of_mem old)

/-- The tags of variants are distinct, and different from those before. -/
theorem distinct_variantsOf {discriminator : String} {i : Nat} {seen : List String}
    {asts : List Ast} {tags : List (Option String)} {variants : Entries Ast}
    (ok : variantsOf discriminator i seen asts tags = .ok variants) :
    Distinct variants ∧ ∀ tag ∈ Entries.keys variants, tag ∉ seen := by
  induction asts generalizing i seen tags variants with
  | nil =>
    cases ok
    exact ⟨List.nodup_nil, by simp⟩
  | cons ast rest ih =>
    cases tags with
    | nil =>
      cases ok
      exact ⟨List.nodup_nil, by simp⟩
    | cons tag? tags =>
      rw [variantsOf] at ok
      split at ok
      · cases ok
      · next new =>
        obtain ⟨later, tail, last⟩ := bind_eq_ok_iff.1 ok
        cases last
        obtain ⟨distinct, fresh⟩ := ih tail
        refine ⟨List.nodup_cons.2 ⟨fun repeated ↦ ?_, distinct⟩, fun tag member ↦ ?_⟩
        · exact fresh _ repeated List.mem_cons_self
        · rcases List.mem_cons.1 member with rfl | inLater
          · simpa using new
          · exact fun before ↦ fresh tag inLater (List.mem_cons_of_mem _ before)

/-- Each alternative becomes a variant, with its own tag or one that it is given. -/
theorem forall₂_variantsOf {discriminator : String} {i : Nat} {seen : List String}
    {asts : List Ast} {tags : List (Option String)} {variants : Entries Ast}
    (length : asts.length = tags.length)
    (ok : variantsOf discriminator i seen asts tags = .ok variants) :
    List.Forall₂ (fun source variant ↦
        (source.2 = some variant.1 ∧ variant.2 = source.1)
          ∨ (source.2 = none ∧ variant.2 = withTag discriminator variant.1 source.1))
      (asts.zip tags) variants := by
  induction asts generalizing i seen tags variants with
  | nil =>
    cases ok
    exact .nil
  | cons ast rest ih =>
    cases tags with
    | nil => cases length
    | cons tag? tags =>
      rw [variantsOf] at ok
      split at ok
      · cases ok
      · obtain ⟨later, tail, last⟩ := bind_eq_ok_iff.1 ok
        cases last
        refine .cons ?_ (ih (Nat.succ.inj length) tail)
        cases tag? with
        | none => exact .inr ⟨rfl, rfl⟩
        | some tag => exact .inl ⟨rfl, rfl⟩

private theorem imported_unionOfAlternatives {asts : List Ast} {ast : Ast}
    (imported : ∀ ast ∈ asts, ast.All Ast.Imported) (ok : unionOfAlternatives asts = .ok ast) :
    ast.All Ast.Imported ∧ ast.isOptional = false := by
  obtain ⟨⟨shared, tags⟩, found, later⟩ := bind_eq_ok_iff.1 ok
  cases shared with
  | none => cases later
  | some discriminator =>
    obtain ⟨variants, okVariants, last⟩ := bind_eq_ok_iff.1 later
    cases last
    obtain ⟨nonempty, -, fit⟩ := findTags_cases found
    have made := forall₂_variantsOf fit.length_eq okVariants
    have each (tag : String) (variant : Ast) (member : (tag, variant) ∈ variants) :
        variant.All Ast.Imported ∧ variant.TaggedBy discriminator tag := by
      obtain ⟨⟨source, tag?⟩, among, tagged⟩ := forall₂_exists_of_mem made.flip member
      have importedSource := imported source (List.of_mem_zip among).1
      obtain ⟨fields, required, extraKeys, rfl, first⟩ := List.forall₂_zip fit among
      rcases tagged with ⟨tagged, same⟩ | ⟨tagged, same⟩
      · obtain rfl : tag? = some tag := tagged
        obtain rfl : variant = .struct fields required extraKeys := same
        obtain ⟨before, value, after, rfl, -, key⟩ := exists_split_of_tagOf? first
        refine ⟨importedSource, _, required, extraKeys, value, rfl, ?_, key⟩
        exact Entries.get?_eq_some_of_mem importedSource.here.1 (by simp)
      · obtain rfl : variant = withTag discriminator tag (.struct fields required extraKeys) := same
        exact imported_withTag importedSource discriminator tag
    refine ⟨.intro ⟨?_, (distinct_variantsOf okVariants).1, fun tag variant member ↦ ?_⟩ ?_, rfl⟩
    · rintro rfl
      have length := made.length_eq
      rw [List.length_zip, ← fit.length_eq, Nat.min_self] at length
      exact nonempty rfl (List.length_eq_zero_iff.1 length)
    · exact (each tag variant member).2
    · intro child among
      obtain ⟨⟨tag, variant⟩, member, rfl⟩ := List.mem_map.1 among
      exact (each tag variant member).1

/-! ### Documents -/

private theorem imported_finish {plan : Plan} {ast : Ast} (imported : ast.All Ast.Imported)
    (notOptional : ast.isOptional = false) :
    (plan.finish ast).All Ast.Imported ∧ (plan.finish ast).isOptional = false := by
  rw [Plan.finish]
  split
  · refine ⟨.intro (by simpa [Ast.Imported] using ⟨notOptional, rfl⟩) ?_, rfl⟩
    have null : Ast.null.All Ast.Imported := Ast.Imported.leaf trivial rfl
    simpa [Ast.children] using ⟨imported, null⟩
  · exact ⟨imported, notOptional⟩

/-- What is read is well formed throughout, and is not optional itself. -/
theorem imported_read {schema : Json} (formed : schema.WellFormed) {ast : Ast}
    (ok : read schema = .ok ast) : ast.All Ast.Imported ∧ ast.isOptional = false := by
  -- The schemas below a node stand one or two levels down: under a keyword, or in a list there.
  suffices both : (∀ ast, read schema = .ok ast → ast.All Ast.Imported ∧ ast.isOptional = false)
      ∧ ∀ child ∈ schema.children, ∀ ast, read child = .ok ast →
        ast.All Ast.Imported ∧ ast.isOptional = false from both.1 ast ok
  clear ok ast
  induction schema using Json.induction with
  | step schema ih =>
    have below (child : Json) (member : child ∈ schema.children) := ih child member
      (formed.child member)
    refine ⟨fun ast ok ↦ ?_, fun child member ↦ (below child member).1⟩
    cases schema with
    | object ms =>
      have under {key : String} {doc : Json} (found : Entries.get? key ms = some doc) :=
        below doc (Json.mem_children_of_get? found)
      have list {key : String} {asts : List Ast} (ok : readListUnder key ms = .ok asts) :
          ∀ ast ∈ asts, ast.All Ast.Imported ∧ ast.isOptional = false := by
        rw [readListUnder_eq] at ok
        split at ok
        · next items found =>
          intro ast member
          obtain ⟨doc, among, reads⟩ :=
            forall₂_exists_of_mem (forall₂_of_readList ok).flip member
          exact (under found).2 doc among ast reads
        · cases ok
      have one {key : String} {ast : Ast} (ok : readUnder key ms = .ok ast) :
          ast.All Ast.Imported := by
        rw [readUnder_eq] at ok
        split at ok
        · cases ok
          exact Ast.Imported.leaf trivial rfl
        · next schema found => exact ((under found).1 ast ok).1
      have plainString : Ast.plainString.All Ast.Imported := Ast.Imported.leaf trivial rfl
      rw [read_object] at ok
      obtain ⟨plan, planned, ok⟩ := bind_eq_ok_iff.1 ok
      rcases planOf_cases planned with rfl | rfl | ⟨doc, found, rfl⟩ | ⟨docs, listed, found, rfl⟩ |
        ⟨type, form, nullable, typed, rfl⟩
      · obtain ⟨asts, okList, ok⟩ := bind_eq_ok_iff.1 ok
        exact imported_unionOfAlternatives (fun ast member ↦ (list okList ast member).1) ok
      · obtain ⟨asts, okList, last⟩ := bind_eq_ok_iff.1 ok
        cases last
        exact ⟨.intro (fun ast member ↦ (list okList ast member).2)
          fun ast member ↦ (list okList ast member).1, rfl⟩
      · cases ok
        have formedDoc := formed.child (Json.mem_children_of_get? found)
        refine ⟨Ast.Imported.leaf ⟨by simp, ?_⟩ rfl, rfl⟩
        simpa using ⟨Value.symbolFree_ofJson doc, Value.wellFormed_ofJson formedDoc⟩
      · cases ok
        have formedDocs := formed.child (Json.mem_children_of_get? found)
        refine ⟨Ast.Imported.leaf ⟨by simpa using listed, List.forall_mem_map.2 ?_⟩ rfl, rfl⟩
        intro doc member
        exact ⟨Value.symbolFree_ofJson doc, Value.wellFormed_ofJson (formedDocs.child member)⟩
      · cases form with
        | oneOf => exact absurd rfl (typedForm_ne typed).1
        | anyOf => exact absurd rfl (typedForm_ne typed).2
        | leaf ast =>
          cases ok
          obtain ⟨imported, notOptional, -⟩ := imported_of_typedForm typed
          exact imported_finish imported notOptional
        | tuple =>
          obtain ⟨asts, okList, last⟩ := bind_eq_ok_iff.1 ok
          cases last
          exact imported_finish (.intro trivial fun ast member ↦ (list okList ast member).1) rfl
        | array hasItems c =>
          obtain ⟨item, okItem, last⟩ := bind_eq_ok_iff.1 ok
          cases last
          exact imported_finish (.intro trivial (by simpa [Ast.children] using one okItem)) rfl
        | record hasSchema =>
          cases hasSchema with
          | true =>
            obtain ⟨value, okValue, last⟩ := bind_eq_ok_iff.1 ok
            cases last
            refine imported_finish (.intro rfl ?_) rfl
            simpa [Ast.children] using ⟨plainString, one okValue⟩
          | false =>
            cases ok
            exact imported_finish (.intro rfl (by simpa [Ast.children] using plainString)) rfl
        | struct required extraKeys =>
          obtain ⟨fields, okFields, last⟩ := bind_eq_ok_iff.1 ok
          cases last
          refine imported_finish ?_ rfl
          rw [readFieldsUnder_eq] at okFields
          split at okFields
          · next properties found =>
            have formedProperties := formed.child (Json.mem_children_of_get? found)
            obtain ⟨distinct, each⟩ := Json.wellFormed_object_iff.1 formedProperties
            exact imported_structOf distinct each (under found).2 okFields
          · cases okFields
            exact @imported_structOf _ _ [] _ List.nodup_nil (by simp [Entries.values])
              (by simp [Entries.values]) rfl
    | _ => cases ok

/-! ### Object schemas -/

/-- The names of the properties of a schema; without an object there, there are none. -/
def propertyNames (schema : Json) : List String :=
  match schema.get? "properties" with
  | some (.object properties) => Entries.keys properties
  | _ => []

/-- The fields that are read have the names of the properties. -/
private theorem keys_of_readFieldsUnder {required : List String} {fields : Entries Ast}
    (ok : readFieldsUnder required ms = .ok fields) :
    Entries.keys fields = propertyNames (.object ms) := by
  rw [readFieldsUnder_eq] at ok
  simp only [propertyNames, Json.get?]
  cases found : Entries.get? "properties" ms with
  | none =>
    rw [found] at ok
    cases ok
    rfl
  | some schemas =>
    rw [found] at ok
    cases schemas with
    | object properties => exact (readFields_cases ok).1
    | _ =>
      cases ok
      rfl

/-- A type that decides for a struct is that of objects. -/
private theorem struct_of_typedForm {type : String} {required : List String}
    {extraKeys : ExtraKeys} (ok : typedForm type ms = .ok (.struct required extraKeys)) :
    required = requiredOf ms ∧ extraKeys ≠ .include := by
  have policy (additional : Option Json) : extraKeysOf additional ≠ .include := by
    rw [extraKeysOf.eq_def]
    split <;> simp
  rw [typedForm.eq_def] at ok
  split at ok
  case h_6 => split at ok <;> cases ok
  case h_7 =>
    rw [objectForm] at ok
    split at ok
    · cases ok
      exact ⟨rfl, policy _⟩
    · split at ok <;> cases ok
      exact ⟨rfl, policy _⟩
  all_goals cases ok

/-- The alternatives under `oneOf` never become a struct. -/
private theorem kind_of_unionOfAlternatives {asts : List Ast} {ast : Ast}
    (ok : unionOfAlternatives asts = .ok ast) : ast.kind ≠ .struct := by
  obtain ⟨⟨shared, tags⟩, -, ok⟩ := bind_eq_ok_iff.1 ok
  cases shared with
  | none => cases ok
  | some discriminator =>
    obtain ⟨variants, -, last⟩ := bind_eq_ok_iff.1 ok
    cases last
    simp [Ast.kind]

/-- A struct is read from an object schema. Its fields are the properties, those of them that are
listed are required, and undeclared keys are never kept. -/
theorem struct_of_read {fields : Entries Ast} {required : List String} {extraKeys : ExtraKeys}
    (ok : read (.object ms) = .ok (.struct fields required extraKeys)) :
    Entries.keys fields = propertyNames (.object ms)
      ∧ required = (Entries.keys fields).filter (requiredOf ms).contains
      ∧ extraKeys ≠ .include := by
  rw [read_object] at ok
  obtain ⟨plan, planned, ok⟩ := bind_eq_ok_iff.1 ok
  rcases planOf_cases planned with rfl | rfl | ⟨doc, found, rfl⟩ | ⟨docs, listed, found, rfl⟩ |
    ⟨type, form, nullable, typed, rfl⟩
  · obtain ⟨asts, -, ok⟩ := bind_eq_ok_iff.1 ok
    exact absurd rfl (kind_of_unionOfAlternatives ok)
  · obtain ⟨asts, -, last⟩ := bind_eq_ok_iff.1 ok
    cases last
  · cases ok
  · cases ok
  · cases nullable with
    | true =>
      obtain ⟨ast, okNarrow⟩ := exists_readPlan_of_nullable ok
      rw [readPlan_nullable (typedForm_ne typed) okNarrow] at ok
      cases ok
    | false =>
      cases form with
      | oneOf => exact absurd rfl (typedForm_ne typed).1
      | anyOf => exact absurd rfl (typedForm_ne typed).2
      | leaf ast =>
        cases ok
        exact absurd rfl (imported_of_typedForm typed).2.2
      | record hasSchema =>
        cases hasSchema with
        | true =>
          obtain ⟨value, -, last⟩ := bind_eq_ok_iff.1 ok
          cases last
        | false => cases ok
      | struct names policy =>
        obtain ⟨rfl, notKept⟩ := struct_of_typedForm typed
        obtain ⟨fields', okFields, last⟩ := bind_eq_ok_iff.1 ok
        cases last
        exact ⟨keys_of_readFieldsUnder okFields, rfl, notKept⟩
      | _ =>
        obtain ⟨children, -, last⟩ := bind_eq_ok_iff.1 ok
        cases last

end JsonSchema

end Schemata
