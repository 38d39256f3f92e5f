import Schemata.Ast.Reader
import Schemata.Proofs.Ast
import Schemata.Proofs.Basic
import Schemata.Proofs.Json

/-!
# The written form of a description

Reading a node looks its members up by name and nothing else, so the order of members and members
that a node does not know do not matter (`read_respelled`). A description is read back from its
written form but for defaults that are null, which are read as none (`read_toJson`).
-/

namespace Schemata

namespace Ast

/-! ### What a node knows -/

/-- The members that a node of a kind knows, beside the one that names the kind. -/
def knownMembers : Kind → List String
  | .string | .number | .integer => ["constraints"]
  | .boolean | .null | .symbol => []
  | .literal => ["values"]
  | .array => ["item_type", "constraints"]
  | .tuple => ["elements"]
  | .struct => ["fields", "required", "extra_keys"]
  | .record => ["key_type", "value_type"]
  | .union => ["members"]
  | .discriminatedUnion => ["discriminator", "variants"]
  | .optional => ["inner_type", "default_value"]
  | .transform => ["inner_type", "target"]
  | .lazy => ["name", "ref_type", "ref_depth"]

/-- The members that the constraint set of a node of a kind knows. -/
def knownConstraints : Kind → List String
  | .string => ["min", "max", "format"]
  | .number | .integer => ["min", "max", "greater_than", "less_than", "multiple_of"]
  | .array => ["min", "max", "length", "unique"]
  | _ => []

/-- The members that hold a node. -/
def nodeMembers : List String := ["item_type", "key_type", "value_type", "inner_type"]

/-- The members that hold a list of nodes. -/
def listMembers : List String := ["elements", "members"]

/-- The members that hold named nodes. -/
def namedMembers : List String := ["fields", "variants"]

/-- Two documents of a node differ in the order of the members of nodes and constraint sets, and in
members that these do not know. -/
inductive Respelled : Json → Json → Prop where
  /-- Nothing differs. -/
  | refl (doc : Json) : Respelled doc doc
  /-- The documents change places. -/
  | symm {doc doc' : Json} (h : Respelled doc doc') : Respelled doc' doc
  /-- One difference after the other. -/
  | trans {doc doc' doc'' : Json} (h : Respelled doc doc') (h' : Respelled doc' doc'') :
      Respelled doc doc''
  /-- The members of the node stand in another order. -/
  | order {ms ms' : Entries Json} (perm : ms.Perm ms') : Respelled (.object ms) (.object ms')
  /-- The node has a member that nodes of its kind do not know. -/
  | extra {ms : Entries Json} {name : String} (doc : Json) (notKind : name ≠ "_type")
      (unknown : ∀ kind, kindOf true ms = .ok kind → name ∉ knownMembers kind) :
      Respelled (.object ms) (.object ((name, doc) :: ms))
  /-- The members of its constraint set stand in another order. -/
  | constraintOrder {before after cs cs' : Entries Json} (perm : cs.Perm cs') :
      Respelled (.object (before ++ ("constraints", .object cs) :: after))
        (.object (before ++ ("constraints", .object cs') :: after))
  /-- Its constraint set has a member that those of its kind do not know. -/
  | constraintExtra {before after cs : Entries Json} {name : String} (doc : Json)
      (unknown : ∀ kind, kindOf true (before ++ ("constraints", .object cs) :: after) = .ok kind →
        name ∉ knownConstraints kind) :
      Respelled (.object (before ++ ("constraints", .object cs) :: after))
        (.object (before ++ ("constraints", .object ((name, doc) :: cs)) :: after))
  /-- A node below it differs. -/
  | node {before after : Entries Json} {key : String} {doc doc' : Json} (holds : key ∈ nodeMembers)
      (h : Respelled doc doc') :
      Respelled (.object (before ++ (key, doc) :: after)) (.object (before ++ (key, doc') :: after))
  /-- One of a list of nodes below it differs. -/
  | item {before after : Entries Json} {key : String} {docs docs' : List Json} {doc doc' : Json}
      (holds : key ∈ listMembers) (h : Respelled doc doc') :
      Respelled (.object (before ++ (key, .array (docs ++ doc :: docs')) :: after))
        (.object (before ++ (key, .array (docs ++ doc' :: docs')) :: after))
  /-- One of the named nodes below it differs. -/
  | entry {before after : Entries Json} {key name : String} {docs docs' : Entries Json}
      {doc doc' : Json} (holds : key ∈ namedMembers) (h : Respelled doc doc') :
      Respelled (.object (before ++ (key, .object (docs ++ (name, doc) :: docs')) :: after))
        (.object (before ++ (key, .object (docs ++ (name, doc') :: docs')) :: after))

/-! ### Look-ups -/

/-- The descriptions in a list under a key. -/
private def listOf (key : String) : Json → Except DocumentFault (List Ast)
  | .array items => ofList items
  | _ => .error (.malformed key)

/-- The named descriptions under a key. -/
private def namedOf (key : String) : Json → Except DocumentFault (Entries Ast)
  | .object members => (ofEntries members).map Entries.ofList
  | _ => .error (.malformed key)

/-- What a reader makes of a member that must be present, from what looking it up gives. -/
private def present {α : Type} (key : String) (reader : Json → Except DocumentFault α)
    (found : Except DocumentFault (Option Json)) : Except DocumentFault α :=
  found.bind fun doc? ↦
    match doc? with
    | none => .error (.missing key)
    | some doc => reader doc

private theorem present_cons {α : Type} (key : String) (reader : Json → Except DocumentFault α)
    (k : String) (doc : Json) (rest : Entries Json) :
    present key reader (Json.member? key ((k, doc) :: rest)) =
      if k = key then
        if Entries.contains key rest then .error (.repeated key) else reader doc
      else present key reader (Json.member? key rest) := by
  by_cases same : k = key
  · subst same
    rw [Json.member?_cons_self, if_pos rfl]
    by_cases again : k ∈ Entries.keys rest
    · rw [if_pos again, if_pos (Entries.contains_eq_true_iff.2 again)]
      rfl
    · rw [if_neg again, if_neg (mt Entries.contains_eq_true_iff.1 again)]
      rfl
  · rw [Json.member?_cons_of_ne same, if_neg same]

private theorem ofMember_eq (key : String) (ms : Entries Json) :
    ofMember key ms = present key (read true) (Json.member? key ms) := by
  induction ms with
  | nil => rfl
  | cons m rest ih =>
    obtain ⟨k, doc⟩ := m
    rw [ofMember, present_cons, ih]

private theorem ofListMember_eq (key : String) (ms : Entries Json) :
    ofListMember key ms = present key (listOf key) (Json.member? key ms) := by
  induction ms with
  | nil => rfl
  | cons m rest ih =>
    obtain ⟨k, doc⟩ := m
    unfold ofListMember
    rw [present_cons, ih]
    cases doc <;> rfl

private theorem ofEntriesMember_eq (key : String) (ms : Entries Json) :
    ofEntriesMember key ms = present key (namedOf key) (Json.member? key ms) := by
  induction ms with
  | nil => rfl
  | cons m rest ih =>
    obtain ⟨k, doc⟩ := m
    unfold ofEntriesMember
    rw [present_cons, ih]
    cases doc <;> rfl

/-- A kind that is read at the top is read below another node too. -/
theorem kindOf_inside {inside : Bool} {ms : Entries Json} {kind : Kind}
    (ok : kindOf inside ms = .ok kind) : kindOf true ms = .ok kind := by
  cases inside with
  | true => exact ok
  | false =>
    obtain ⟨doc?, found, named⟩ := bind_eq_ok_iff.1 ok
    refine bind_eq_ok_iff.2 ⟨doc?, found, ?_⟩
    cases doc? with
    | none => exact named
    | some doc =>
      cases doc with
      | string => exact named
      | _ => cases named

/-! ### Congruence -/

/-- Two documents of a constraint set are read alike where a node of a kind has them. -/
private def SameConstraints : Kind → Json → Json → Prop
  | .string, doc, doc' => StringConstraints.ofJson doc = StringConstraints.ofJson doc'
  | .number, doc, doc' => NumericConstraints.ofJson doc = NumericConstraints.ofJson doc'
  | .integer, doc, doc' => NumericConstraints.ofJson doc = NumericConstraints.ofJson doc'
  | .array, doc, doc' => ArrayConstraints.ofJson doc = ArrayConstraints.ofJson doc'
  | _, _, _ => True

private theorem sameConstraints_of_member? {cs cs' : Entries Json} (kind : Kind)
    (same : ∀ key ∈ knownConstraints kind, Json.member? key cs = Json.member? key cs') :
    SameConstraints kind (.object cs) (.object cs') := by
  cases kind with
  | string =>
    simp only [knownConstraints, List.forall_mem_cons] at same
    obtain ⟨min, max, format, -⟩ := same
    simp only [SameConstraints, StringConstraints.ofJson, Json.optionalMember, Json.memberOr, min,
      max, format]
  | number | integer =>
    simp only [knownConstraints, List.forall_mem_cons] at same
    obtain ⟨min, max, greaterThan, lessThan, multipleOf, -⟩ := same
    simp only [SameConstraints, NumericConstraints.ofJson, Json.optionalMember, Json.memberOr, min,
      max, greaterThan, lessThan, multipleOf]
  | array =>
    simp only [knownConstraints, List.forall_mem_cons] at same
    obtain ⟨min, max, length, unique, -⟩ := same
    simp only [SameConstraints, ArrayConstraints.ofJson, Json.optionalMember, Json.memberOr, min,
      max, length, unique]
  | _ => trivial

/-- Looking a member of a node up gives the same in two documents, or something that is read
alike. -/
private inductive FoundAlike (kind : Kind) (key : String) :
    (found found' : Except DocumentFault (Option Json)) → Prop where
  | same (found : Except DocumentFault (Option Json)) : FoundAlike kind key found found
  | node {doc doc' : Json} (holds : key ∈ nodeMembers) (alike : read true doc = read true doc') :
      FoundAlike kind key (.ok (some doc)) (.ok (some doc'))
  | list {doc doc' : Json} (holds : key ∈ listMembers) (alike : listOf key doc = listOf key doc') :
      FoundAlike kind key (.ok (some doc)) (.ok (some doc'))
  | named {doc doc' : Json} (holds : key ∈ namedMembers)
      (alike : namedOf key doc = namedOf key doc') :
      FoundAlike kind key (.ok (some doc)) (.ok (some doc'))
  | constraints {doc doc' : Json} (holds : key = "constraints")
      (alike : SameConstraints kind doc doc') :
      FoundAlike kind key (.ok (some doc)) (.ok (some doc'))

namespace FoundAlike

variable {kind : Kind} {key : String} {found found' : Except DocumentFault (Option Json)}
  {ms ms' : Entries Json}

private theorem alone :
    ("constraints" :: (nodeMembers ++ listMembers ++ namedMembers)).Nodup := by
  decide

theorem eq_of_plain (h : FoundAlike kind key found found')
    (plain : key ∉ "constraints" :: (nodeMembers ++ listMembers ++ namedMembers)) :
    found = found' := by
  cases h with
  | same => rfl
  | node holds | list holds | named holds | constraints holds => simp [holds] at plain

theorem present_read (h : FoundAlike kind key found found') (holds : key ∈ nodeMembers) :
    present key (read true) found = present key (read true) found' := by
  have alone := alone
  cases h with
  | same => rfl
  | node _ alike => exact alike
  | list other | named other | constraints other => grind

theorem present_listOf (h : FoundAlike kind key found found') (holds : key ∈ listMembers) :
    present key (listOf key) found = present key (listOf key) found' := by
  have alone := alone
  cases h with
  | same => rfl
  | list _ alike => exact alike
  | node other | named other | constraints other => grind

theorem present_namedOf (h : FoundAlike kind key found found') (holds : key ∈ namedMembers) :
    present key (namedOf key) found = present key (namedOf key) found' := by
  have alone := alone
  cases h with
  | same => rfl
  | named _ alike => exact alike
  | node other | list other | constraints other => grind

theorem constraintsOf {α : Type} {reader : Json → Except DocumentFault α}
    (reads : ∀ doc doc', SameConstraints kind doc doc' → reader doc = reader doc')
    (h : FoundAlike kind "constraints" (Json.member? "constraints" ms)
      (Json.member? "constraints" ms')) (empty : α) :
    Ast.constraintsOf reader empty ms = Ast.constraintsOf reader empty ms' := by
  rw [Ast.constraintsOf, Ast.constraintsOf]
  generalize Json.member? "constraints" ms = found at h ⊢
  generalize Json.member? "constraints" ms' = found' at h ⊢
  cases h with
  | same => rfl
  | constraints _ alike => exact reads _ _ alike
  | node other | list other | named other => exact absurd other (by decide)

end FoundAlike

/-- Nodes of one kind whose members are found alike are read alike. -/
private theorem read_congr {inside : Bool} {ms ms' : Entries Json}
    (type : Json.member? "_type" ms = Json.member? "_type" ms')
    (alike : ∀ kind, kindOf true ms = .ok kind → ∀ key ∈ knownMembers kind,
      FoundAlike kind key (Json.member? key ms) (Json.member? key ms')) :
    read inside (.object ms) = read inside (.object ms') := by
  have sameKind : kindOf inside ms = kindOf inside ms' := by rw [kindOf, kindOf, type]
  rw [read, read, ← sameKind]
  cases ofKind : kindOf inside ms with
  | error => rfl
  | ok kind =>
    have alike := alike kind (kindOf_inside ofKind)
    simp only [bind, Except.bind]
    cases kind with
    | string =>
      simp only [FoundAlike.constraintsOf (fun _ _ ↦ id) (alike _ (by decide))]
    | number =>
      simp only [FoundAlike.constraintsOf (fun _ _ ↦ id) (alike _ (by decide))]
    | integer =>
      simp only [FoundAlike.constraintsOf (fun _ _ ↦ id) (alike _ (by decide))]
    | boolean | null | symbol => rfl
    | literal =>
      have values := (alike "values" (by decide)).eq_of_plain (by decide)
      simp only [Json.requiredMember, values]
    | array =>
      have item := (alike "item_type" (by decide)).present_read (by decide)
      simp only [ofMember_eq, item,
        FoundAlike.constraintsOf (fun _ _ ↦ id) (alike "constraints" (by decide))]
    | tuple =>
      have elements := (alike "elements" (by decide)).present_listOf (by decide)
      simp only [ofListMember_eq, elements]
    | struct =>
      have fields := (alike "fields" (by decide)).present_namedOf (by decide)
      have required := (alike "required" (by decide)).eq_of_plain (by decide)
      have extraKeys := (alike "extra_keys" (by decide)).eq_of_plain (by decide)
      simp only [ofEntriesMember_eq, fields, Json.memberOr, required, extraKeys]
    | record =>
      have key := (alike "key_type" (by decide)).present_read (by decide)
      have value := (alike "value_type" (by decide)).present_read (by decide)
      simp only [ofMember_eq, key, value]
    | union =>
      have members := (alike "members" (by decide)).present_listOf (by decide)
      simp only [ofListMember_eq, members]
    | discriminatedUnion =>
      have discriminator := (alike "discriminator" (by decide)).eq_of_plain (by decide)
      have variants := (alike "variants" (by decide)).present_namedOf (by decide)
      simp only [ofEntriesMember_eq, variants, Json.requiredMember, discriminator]
    | optional =>
      have inner := (alike "inner_type" (by decide)).present_read (by decide)
      have default := (alike "default_value" (by decide)).eq_of_plain (by decide)
      simp only [ofMember_eq, inner, Json.optionalMember, Json.memberOr, default]
    | transform =>
      have inner := (alike "inner_type" (by decide)).present_read (by decide)
      have target := (alike "target" (by decide)).eq_of_plain (by decide)
      simp only [ofMember_eq, inner, Json.requiredMember, target]
    | lazy =>
      have name := (alike "name" (by decide)).eq_of_plain (by decide)
      have refKind := (alike "ref_type" (by decide)).eq_of_plain (by decide)
      have refDepth := (alike "ref_depth" (by decide)).eq_of_plain (by decide)
      simp only [Json.requiredMember, Json.optionalMember, Json.memberOr, name, refKind, refDepth]

/-- What stands under one member of a node is read alike. -/
private theorem read_replace {inside : Bool} {before after : Entries Json} {key : String}
    {doc doc' : Json} (notKind : key ≠ "_type")
    (alike : ∀ kind, kindOf true (before ++ (key, doc) :: after) = .ok kind →
      FoundAlike kind key (.ok (some doc)) (.ok (some doc'))) :
    read inside (.object (before ++ (key, doc) :: after)) =
      read inside (.object (before ++ (key, doc') :: after)) := by
  refine read_congr (Json.member?_replace notKind before after doc doc')
    fun kind ofKind other _ ↦ ?_
  by_cases same : key = other
  · subst same
    rw [Json.member?_append_cons, Json.member?_append_cons]
    split
    · exact .same _
    · exact alike kind ofKind
  · rw [Json.member?_replace same before after doc doc']
    exact .same _

private theorem ofList_replace {doc doc' : Json} (alike : read true doc = read true doc')
    (docs docs' : List Json) : ofList (docs ++ doc :: docs') = ofList (docs ++ doc' :: docs') := by
  induction docs with
  | nil => rw [List.nil_append, List.nil_append, ofList, ofList, alike]
  | cons first rest ih => rw [List.cons_append, List.cons_append, ofList, ofList, ih]

private theorem ofEntries_replace {doc doc' : Json} (alike : read true doc = read true doc')
    (name : String) (docs docs' : Entries Json) :
    ofEntries (docs ++ (name, doc) :: docs') = ofEntries (docs ++ (name, doc') :: docs') := by
  induction docs with
  | nil => rw [List.nil_append, List.nil_append, ofEntries, ofEntries, alike]
  | cons first rest ih => rw [List.cons_append, List.cons_append, ofEntries, ofEntries, ih]

/-- Documents that differ in the order of members, or in members that are not known, are read
alike. -/
theorem read_respelled {doc doc' : Json} (h : Respelled doc doc') (inside : Bool) :
    read inside doc = read inside doc' := by
  induction h generalizing inside with
  | refl => rfl
  | symm _ ih => exact (ih inside).symm
  | trans _ _ ih ih' => exact (ih inside).trans (ih' inside)
  | order perm =>
    refine read_congr (Json.member?_perm _ perm) fun _ _ key _ ↦ ?_
    rw [Json.member?_perm key perm]
    exact .same _
  | @extra ms name doc notKind unknown =>
    refine read_congr (Json.member?_cons_of_ne notKind doc ms).symm fun kind ofKind key known ↦ ?_
    have ne : name ≠ key := fun eq ↦ unknown kind ofKind (eq ▸ known)
    rw [Json.member?_cons_of_ne ne]
    exact .same _
  | constraintOrder perm =>
    refine read_replace (by decide) fun kind _ ↦ .constraints rfl ?_
    exact sameConstraints_of_member? kind fun key _ ↦ Json.member?_perm key perm
  | @constraintExtra before after cs name doc unknown =>
    refine read_replace (by decide) fun kind ofKind ↦ .constraints rfl ?_
    refine sameConstraints_of_member? kind fun key known ↦ ?_
    have ne : name ≠ key := fun eq ↦ unknown kind ofKind (eq ▸ known)
    rw [Json.member?_cons_of_ne ne]
  | @node before after key doc doc' holds _ ih =>
    have notKind : key ≠ "_type" := by
      rintro rfl
      exact absurd holds (by decide)
    exact read_replace notKind fun _ _ ↦ .node holds (ih true)
  | @item before after key docs docs' doc doc' holds _ ih =>
    have notKind : key ≠ "_type" := by
      rintro rfl
      exact absurd holds (by decide)
    exact read_replace notKind fun _ _ ↦ .list holds (ofList_replace (ih true) docs docs')
  | @entry before after key name docs docs' doc doc' holds _ ih =>
    have notKind : key ≠ "_type" := by
      rintro rfl
      exact absurd holds (by decide)
    refine read_replace notKind fun _ _ ↦ .named holds ?_
    rw [namedOf, namedOf, ofEntries_replace (ih true)]

/-! ### Reading what was written -/

/-- A default, null as none. -/
def givenDefault : Option Value → Option Value
  | some .null => none
  | default => default

mutual

/-- A description without the defaults that are null. -/
def withoutNullDefaults : Ast → Ast
  | .array item c => .array item.withoutNullDefaults c
  | .tuple elements => .tuple (listWithoutNullDefaults elements)
  | .struct fields required extraKeys =>
    .struct (entriesWithoutNullDefaults fields) required extraKeys
  | .record key value => .record key.withoutNullDefaults value.withoutNullDefaults
  | .union members => .union (listWithoutNullDefaults members)
  | .discriminatedUnion discriminator variants =>
    .discriminatedUnion discriminator (entriesWithoutNullDefaults variants)
  | .optional inner default => .optional inner.withoutNullDefaults (givenDefault default)
  | .transform inner target => .transform inner.withoutNullDefaults target
  | leaf => leaf

/-- `withoutNullDefaults` of each description of a list. -/
def listWithoutNullDefaults : List Ast → List Ast
  | [] => []
  | ast :: rest => ast.withoutNullDefaults :: listWithoutNullDefaults rest

/-- `withoutNullDefaults` of each description under a name. -/
def entriesWithoutNullDefaults : List (String × Ast) → List (String × Ast)
  | [] => []
  | (name, ast) :: rest => (name, ast.withoutNullDefaults) :: entriesWithoutNullDefaults rest

end

/-- What a description can hold: distinct names of fields and of variants, values without repeated
keys, and depths that are counts. -/
def Formed : Ast → Prop
  | .literal values => ∀ value ∈ values, value.WellFormed
  | .struct fields _ _ => Entries.Distinct fields
  | .discriminatedUnion _ variants => Entries.Distinct variants
  | .optional _ (some default) => default.WellFormed
  | .lazy _ _ (some depth) => depth < UInt64.size
  | _ => True

/-- A description whose own values hold no symbol. -/
def NoSymbol : Ast → Prop
  | .literal values => ∀ value ∈ values, value.SymbolFree
  | .optional _ (some default) => default.SymbolFree
  | _ => True

/-- A description whose own default is not null. -/
def NoNullDefault : Ast → Prop
  | .optional _ default => default ≠ some .null
  | _ => True

theorem givenDefault_of_ne {default : Option Value} (ne : default ≠ some .null) :
    givenDefault default = default := by
  unfold givenDefault
  split
  · exact absurd rfl ne
  · rfl

theorem listWithoutNullDefaults_eq (asts : List Ast) :
    listWithoutNullDefaults asts = asts.map withoutNullDefaults := by
  induction asts with
  | nil => rfl
  | cons ast rest ih => simp [listWithoutNullDefaults, ih]

theorem entriesWithoutNullDefaults_eq (entries : List (String × Ast)) :
    entriesWithoutNullDefaults entries =
      entries.map fun entry ↦ (entry.1, entry.2.withoutNullDefaults) := by
  induction entries with
  | nil => rfl
  | cons entry rest ih => simp [entriesWithoutNullDefaults, ih]

private theorem kindOf_written (inside : Bool) (kind : Kind) {ms : Entries Json}
    (absent : "_type" ∉ Entries.keys ms) :
    kindOf inside (("_type", .string kind.name) :: ms) = .ok kind := by
  have named : asKind? inside (.string kind.name) = some kind := Kind.ofName?_name kind
  simp only [kindOf, Json.member?_cons_self, if_neg absent, bind, Except.bind, named]
  rfl

private theorem asValue?_toJson {value : Value} (formed : value.WellFormed)
    (free : value.SymbolFree) : asValue? value.toJson = some value := by
  rw [asValue?, Value.normalize_toJson formed, Value.ofJson_toJson value free]

private theorem ofList_toJsonList {asts : List Ast}
    (back : ∀ ast ∈ asts, read true ast.toJson = .ok ast.withoutNullDefaults) :
    ofList (toJsonList asts) = .ok (listWithoutNullDefaults asts) := by
  induction asts with
  | nil => rfl
  | cons ast rest ih =>
    obtain ⟨here, tail⟩ := List.forall_mem_cons.1 back
    rw [toJsonList, ofList, here, ih tail]
    rfl

private theorem ofEntries_toJsonEntries {entries : List (String × Ast)}
    (back : ∀ ast ∈ Entries.values entries, read true ast.toJson = .ok ast.withoutNullDefaults) :
    ofEntries (toJsonEntries entries) = .ok (entriesWithoutNullDefaults entries) := by
  induction entries with
  | nil => rfl
  | cons entry rest ih =>
    obtain ⟨here, tail⟩ := List.forall_mem_cons.1 back
    rw [toJsonEntries, ofEntries, here, ih tail]
    rfl

private theorem namedOf_toJsonEntries {key : String} {entries : List (String × Ast)}
    (distinct : Entries.Distinct entries)
    (back : ∀ ast ∈ Entries.values entries, read true ast.toJson = .ok ast.withoutNullDefaults) :
    namedOf key (.object (toJsonEntries entries)) = .ok (entriesWithoutNullDefaults entries) := by
  rw [namedOf, ofEntries_toJsonEntries back, Except.map, Entries.ofList_of_distinct]
  rwa [Entries.Distinct, entriesWithoutNullDefaults_eq, Entries.keys_map]

private theorem present_of_found {α : Type} {key : String}
    {reader : Json → Except DocumentFault α} {ms : Entries Json} {doc : Json} {a : α}
    (found : Json.member? key ms = .ok (some doc)) (reads : reader doc = .ok a) :
    present key reader (Json.member? key ms) = .ok a := by
  rw [found]
  exact reads

private theorem asListOf?_asString? (names : List String) :
    Json.asListOf? Json.asString? (.array (names.map Json.string)) = some names := by
  rw [Json.asListOf?]
  induction names with
  | nil => rfl
  | cons name rest ih => simp [ih, Json.asString?]

private theorem asListOf?_asValue? {values : List Value}
    (formed : ∀ value ∈ values, value.WellFormed) (free : ∀ value ∈ values, value.SymbolFree) :
    Json.asListOf? asValue? (.array (Value.toJsonItems values)) = some values := by
  rw [Json.asListOf?]
  induction values with
  | nil => rfl
  | cons value rest ih =>
    obtain ⟨formedHere, formedRest⟩ := List.forall_mem_cons.1 formed
    obtain ⟨freeHere, freeRest⟩ := List.forall_mem_cons.1 free
    simp [Value.toJsonItems, asValue?_toJson formedHere freeHere, ih formedRest freeRest]

/-- A default is read back, null as none. -/
private theorem optionalMember_default {default : Option Value}
    (formed : ∀ value, default = some value → value.WellFormed)
    (free : ∀ value, default = some value → value.SymbolFree) {ms : Entries Json}
    (found : Json.member? "default_value" ms = .ok (default.map Value.toJson)) :
    Json.optionalMember "default_value" asValue? ms = .ok (givenDefault default) := by
  cases default with
  | none => exact Json.memberOr_of_absent found
  | some value =>
    refine Json.memberOr_of_found found ?_
    have written := asValue?_toJson (formed value rfl) (free value rfl)
    cases value with
    | null => rfl
    | _ => exact congrArg (Option.map some) written

private theorem read_optional {inner : Ast} {default : Option Value}
    (formed : (Ast.optional inner default).Formed) (free : (Ast.optional inner default).NoSymbol)
    (back : read true inner.toJson = .ok inner.withoutNullDefaults) (inside : Bool) :
    read inside (Ast.optional inner default).toJson =
      .ok (Ast.optional inner default).withoutNullDefaults := by
  have foundInner : Json.member? "inner_type" (("_type", .string Kind.optional.name) ::
      ("inner_type", inner.toJson) :: Json.memberOf "default_value" Value.toJson default) =
        .ok (some inner.toJson) := by
    cases default <;> rfl
  have foundDefault : Json.member? "default_value" (("_type", .string Kind.optional.name) ::
      ("inner_type", inner.toJson) :: Json.memberOf "default_value" Value.toJson default) =
        .ok (default.map Value.toJson) := by
    cases default <;> rfl
  have givenBack := optionalMember_default (fun value eq ↦ by subst eq; exact formed)
    (fun value eq ↦ by subst eq; exact free) foundDefault
  rw [toJson, nodeJson, read, kindOf_written _ _ (by cases default <;> simp [Json.memberOf])]
  refine bind_eq_ok_iff.2 ⟨.optional, rfl, bind_eq_ok_iff.2 ⟨inner.withoutNullDefaults, ?_,
    bind_eq_ok_iff.2 ⟨_, givenBack, rfl⟩⟩⟩
  rw [ofMember_eq]
  exact present_of_found foundInner back

private theorem read_lazy {name : String} {refKind : Kind} {refDepth : Option Nat}
    (formed : (Ast.lazy name refKind refDepth).Formed) (inside : Bool) :
    read inside (Ast.lazy name refKind refDepth).toJson = .ok (.lazy name refKind refDepth) := by
  rw [toJson, nodeJson, read, kindOf_written _ _ (by cases refDepth <;> simp [Json.memberOf])]
  refine bind_eq_ok_iff.2 ⟨.lazy, rfl, bind_eq_ok_iff.2 ⟨name, ?_, bind_eq_ok_iff.2 ⟨refKind, ?_,
    bind_eq_ok_iff.2 ⟨refDepth.map UInt64.ofNat, ?_, ?_⟩⟩⟩⟩
  · exact Json.requiredMember_of_found (by cases refDepth <;> rfl) rfl
  · have word : asWord? Kind.ofName? (.string refKind.name) = some refKind :=
      Kind.ofName?_name refKind
    exact Json.requiredMember_of_found (by cases refDepth <;> rfl) word
  · cases refDepth with
    | none => exact Json.memberOr_of_absent rfl
    | some depth =>
      have count : Json.nullable Json.asCount? (Json.ofCount (UInt64.ofNat depth)) =
          some (some (UInt64.ofNat depth)) :=
        congrArg (Option.map some) (Json.asCount?_ofCount (UInt64.ofNat depth))
      exact Json.memberOr_of_found rfl count
  · cases refDepth with
    | none => rfl
    | some depth =>
      have exact : (UInt64.ofNat depth).toNat = depth := UInt64.toNat_ofNat_of_lt' formed
      show Except.ok (Ast.lazy name refKind (some (UInt64.ofNat depth).toNat)) = _
      rw [exact]

/-- What is written is read back, but for defaults that are null. -/
theorem read_toJson {ast : Ast} (formed : ast.All Formed) (free : ast.All NoSymbol)
    (inside : Bool) : read inside ast.toJson = .ok ast.withoutNullDefaults := by
  induction ast using Ast.induction generalizing inside with
  | step ast ih =>
    have back (child : Ast) (member : child ∈ ast.children) :
        read true child.toJson = .ok child.withoutNullDefaults :=
      ih child member (formed.child member) (free.child member) true
    have formed := formed.here
    have free := free.here
    clear ih
    cases ast with
    | string c =>
      rw [toJson, nodeJson, read, kindOf_written _ _ (by simp)]
      show (StringConstraints.ofJson c.toJson >>= _) = _
      rw [StringConstraints.ofJson_toJson]
      rfl
    | number c =>
      rw [toJson, nodeJson, read, kindOf_written _ _ (by simp)]
      show (NumericConstraints.ofJson c.toJson >>= _) = _
      rw [NumericConstraints.ofJson_toJson]
      rfl
    | integer c =>
      rw [toJson, nodeJson, read, kindOf_written _ _ (by simp)]
      show (NumericConstraints.ofJson c.toJson >>= _) = _
      rw [NumericConstraints.ofJson_toJson]
      rfl
    | boolean | null | symbol =>
      rw [toJson, nodeJson, read, kindOf_written _ _ (by simp)]
      rfl
    | literal values =>
      rw [toJson, nodeJson, read, kindOf_written _ _ (by simp)]
      refine bind_eq_ok_iff.2 ⟨.literal, rfl, bind_eq_ok_iff.2 ⟨values, ?_, rfl⟩⟩
      exact Json.requiredMember_of_found rfl (asListOf?_asValue? formed free)
    | array item c =>
      rw [toJson, nodeJson, read, kindOf_written _ _ (by simp)]
      refine bind_eq_ok_iff.2 ⟨.array, rfl, bind_eq_ok_iff.2 ⟨item.withoutNullDefaults, ?_, ?_⟩⟩
      · rw [ofMember_eq]
        exact present_of_found rfl (back item (by simp [children]))
      · exact bind_eq_ok_iff.2 ⟨c, ArrayConstraints.ofJson_toJson c, rfl⟩
    | tuple elements =>
      rw [toJson, nodeJson, read, kindOf_written _ _ (by simp)]
      refine bind_eq_ok_iff.2 ⟨.tuple, rfl, bind_eq_ok_iff.2 ⟨_, ?_, rfl⟩⟩
      rw [ofListMember_eq]
      exact present_of_found rfl (ofList_toJsonList back)
    | struct fields required extraKeys =>
      rw [toJson, nodeJson, read, kindOf_written _ _ (by cases extraKeys <;> simp)]
      refine bind_eq_ok_iff.2 ⟨.struct, rfl, bind_eq_ok_iff.2
        ⟨entriesWithoutNullDefaults fields, ?_, bind_eq_ok_iff.2 ⟨required, ?_,
          bind_eq_ok_iff.2 ⟨extraKeys, ?_, rfl⟩⟩⟩⟩
      · rw [ofEntriesMember_eq]
        exact present_of_found (by cases extraKeys <;> rfl) (namedOf_toJsonEntries formed back)
      · exact Json.memberOr_of_found (by cases extraKeys <;> rfl) (asListOf?_asString? required)
      · cases extraKeys with
        | reject => exact Json.memberOr_of_absent rfl
        | allow | «include» => exact Json.memberOr_of_found rfl rfl
    | record key value =>
      rw [toJson, nodeJson, read, kindOf_written _ _ (by simp)]
      refine bind_eq_ok_iff.2 ⟨.record, rfl, bind_eq_ok_iff.2 ⟨key.withoutNullDefaults, ?_,
        bind_eq_ok_iff.2 ⟨value.withoutNullDefaults, ?_, rfl⟩⟩⟩
      · rw [ofMember_eq]
        exact present_of_found rfl (back key (by simp [children]))
      · rw [ofMember_eq]
        exact present_of_found rfl (back value (by simp [children]))
    | union members =>
      rw [toJson, nodeJson, read, kindOf_written _ _ (by simp)]
      refine bind_eq_ok_iff.2 ⟨.union, rfl, bind_eq_ok_iff.2 ⟨_, ?_, rfl⟩⟩
      rw [ofListMember_eq]
      exact present_of_found rfl (ofList_toJsonList back)
    | discriminatedUnion discriminator variants =>
      rw [toJson, nodeJson, read, kindOf_written _ _ (by simp)]
      refine bind_eq_ok_iff.2 ⟨.discriminatedUnion, rfl, bind_eq_ok_iff.2 ⟨discriminator, ?_,
        bind_eq_ok_iff.2 ⟨entriesWithoutNullDefaults variants, ?_, rfl⟩⟩⟩
      · exact Json.requiredMember_of_found rfl rfl
      · rw [ofEntriesMember_eq]
        exact present_of_found rfl (namedOf_toJsonEntries formed back)
    | optional inner default =>
      exact read_optional formed free (back inner (by simp [children])) inside
    | transform inner target =>
      rw [toJson, nodeJson, read, kindOf_written _ _ (by simp)]
      refine bind_eq_ok_iff.2 ⟨.transform, rfl, bind_eq_ok_iff.2 ⟨inner.withoutNullDefaults, ?_,
        bind_eq_ok_iff.2 ⟨target, Json.requiredMember_of_found rfl rfl, rfl⟩⟩⟩
      rw [ofMember_eq]
      exact present_of_found rfl (back inner (by simp [children]))
    | lazy name refKind refDepth => exact read_lazy formed inside

private theorem listWithoutNullDefaults_eq_self {asts : List Ast}
    (same : ∀ ast ∈ asts, ast.withoutNullDefaults = ast) : listWithoutNullDefaults asts = asts := by
  rw [listWithoutNullDefaults_eq]
  exact (List.map_congr_left same).trans (List.map_id' asts)

private theorem entriesWithoutNullDefaults_eq_self {entries : Entries Ast}
    (same : ∀ ast ∈ Entries.values entries, ast.withoutNullDefaults = ast) :
    entriesWithoutNullDefaults entries = entries := by
  rw [entriesWithoutNullDefaults_eq]
  refine (List.map_congr_left fun entry member ↦ ?_).trans (List.map_id' entries)
  exact Prod.ext rfl (same entry.2 (List.mem_map_of_mem member))

theorem withoutNullDefaults_eq_self {ast : Ast} (given : ast.All NoNullDefault) :
    ast.withoutNullDefaults = ast := by
  induction ast using Ast.induction with
  | step ast ih =>
    have same : ∀ child ∈ ast.children, child.withoutNullDefaults = child :=
      fun child member ↦ ih child member (given.child member)
    cases ast with
    | array item c => rw [withoutNullDefaults, same item (by simp [children])]
    | tuple elements => exact congrArg tuple (listWithoutNullDefaults_eq_self same)
    | struct fields required extraKeys =>
      rw [withoutNullDefaults, entriesWithoutNullDefaults_eq_self same]
    | record key value =>
      rw [withoutNullDefaults, same key (by simp [children]), same value (by simp [children])]
    | union members => exact congrArg union (listWithoutNullDefaults_eq_self same)
    | discriminatedUnion discriminator variants =>
      rw [withoutNullDefaults, entriesWithoutNullDefaults_eq_self same]
    | optional inner default =>
      rw [withoutNullDefaults, same inner (by simp [children]), givenDefault_of_ne given.here]
    | transform inner target => rw [withoutNullDefaults, same inner (by simp [children])]
    | _ => rfl

/-- A description without symbols and without null defaults is read back from its written form as
it was, and neither the order of members nor unknown ones, in any node or constraint set of a
document, change what is read from it. -/
theorem ofJson_inverts_toJson :
    (∀ ast : Ast, ast.All Formed → ast.All NoSymbol → ast.All NoNullDefault →
        ofJson ast.toJson = .ok ast)
      ∧ ∀ doc doc', Respelled doc doc' → ofJson doc = ofJson doc' := by
  refine ⟨fun ast formed free given ↦ ?_, fun doc doc' respelled ↦ read_respelled respelled false⟩
  rw [ofJson, read_toJson formed free false, withoutNullDefaults_eq_self given]

/-- A parcel: its fields and tags have the names of members, its weight defaults to a negative zero
and it may hold another parcel. -/
def parcel : Ast :=
  .struct
    [("_type", .literal [.string "_type"]),
      ("constraints", .optional (.number { min := some (.float (.zero false)) })
        (some (.number (.float (.zero true))))),
      ("variants", .discriminatedUnion "_type"
        [("_type", .struct [("_type", .literal [.string "_type"])] ["_type"] .allow)]),
      ("inner_type", .optional (.lazy "parcel" .struct (some 2)) none)]
    ["_type", "variants"] .include

/-- The document of two truth values. -/
def pairDocument : Json :=
  .object [("_type", .string "array"), ("item_type", .object [("_type", .string "boolean")]),
    ("constraints", .object [("length", .number (.ofCount 2))])]

/-- The same document, with a comment and with members that its nodes do not know. -/
def pairDocumentRespelled : Json :=
  .object [("comment", .null),
    ("constraints", .object [("format", .null), ("length", .number (.ofCount 2))]),
    ("item_type", .object [("constraints", .bool true), ("_type", .string "boolean")]),
    ("_type", .string "array")]

private theorem pairDocument_respelled : Respelled pairDocument pairDocumentRespelled := by
  have item : Respelled (.object [("_type", .string "boolean")])
      (.object [("constraints", .bool true), ("_type", .string "boolean")]) := by
    refine .extra _ (by decide) fun kind ofKind ↦ ?_
    obtain rfl : Kind.boolean = kind := Except.ok.inj ofKind
    decide
  have first : ∀ kind, kindOf true [("_type", .string "array"), ("item_type", .object
      [("constraints", .bool true), ("_type", .string "boolean")]),
        ("constraints", .object [("length", .number (.ofCount 2))])] = .ok kind → kind = .array :=
    fun kind ofKind ↦ (Except.ok.inj ofKind).symm
  refine .trans (@Respelled.node [_] _ _ _ _ (by decide) item) ?_
  refine .trans (@Respelled.constraintExtra [_, _] _ _ "format" .null fun kind ofKind ↦ ?_) ?_
  · obtain rfl := first kind ofKind
    decide
  refine .trans (.order (List.reverse_perm _).symm) (.extra .null (by decide) fun kind ofKind ↦ ?_)
  obtain rfl : Kind.array = kind := Except.ok.inj ofKind
  decide

private theorem all_parcel :
    parcel.All fun part ↦ part.Formed ∧ part.NoSymbol ∧ part.NoNullDefault := by
  simp [parcel, all_iff (.struct _ _ _), all_iff (.literal _), all_iff (.optional _ _),
    all_iff (.number _), all_iff (.discriminatedUnion _ _), all_iff (.lazy _ _ _), children,
    Entries.values, Formed, Entries.Distinct, Entries.keys, Value.WellFormed, UInt64.size, NoSymbol,
    Value.SymbolFree, NoNullDefault]

/-- The parcel is read back, and the two documents of a pair are read alike. -/
theorem ofJson_inverts_toJson_parcel :
    ofJson parcel.toJson = .ok parcel ∧ ofJson pairDocument = ofJson pairDocumentRespelled := by
  obtain ⟨back, alike⟩ := ofJson_inverts_toJson
  refine ⟨back parcel ?_ ?_ ?_, alike _ _ pairDocument_respelled⟩
  · exact all_parcel.imp fun _ h ↦ h.1
  · exact all_parcel.imp fun _ h ↦ h.2.1
  · exact all_parcel.imp fun _ h ↦ h.2.2

end Ast

end Schemata
