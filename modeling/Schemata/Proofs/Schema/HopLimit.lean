import Schemata.Proofs.Schema.DepthLimit
import Schemata.Proofs.Schema.Encoding

/-!
# The limit on references

Encoding counts references, and what lies behind more of them than `defaultMaxDepth` is left as it
is. A value is cut off there if the encoding depends on what is done behind the last reference that
counts (`Schema.CutsOff`). Without unions and transforms this is so exactly where encoding comes to
a part of the value behind one reference more (`cutsOff_iff`).

Decoding counts references too, along with every other node that has parts, so a decoded part lies
behind no more references than decoding had levels. Only a default does not come out of the levels
of the decoding that it is put into: it counts as what it brings (`Node.DefaultsWithin`). The limits
of the two are independent, though: what was decoded within a larger limit may be cut off.
-/

namespace Schemata

/-! ### Parts behind references -/

/-- Encoding a value by a node comes to a part of it with a reference, and to no reference before.
Null is passed over. -/
inductive Node.Meets (reference : Place) (part : Value) : Node → Value → Prop where
  /-- The reference itself. -/
  | lazy {name : String} (notNull : part ≠ .null) : Meets reference part (.lazy name reference) part
  /-- In an item. -/
  | array {place : Option Place} {item : Node} {c : ArrayConstraints} {items : List Value}
      {value : Value} (member : value ∈ items) (inside : Meets reference part item value) :
      Meets reference part (.array place item c) (.array items)
  /-- In an element. -/
  | tuple {place : Option Place} {elements : List Node} {items : List Value} {node : Node}
      {value : Value} (length : items.length = elements.length)
      (member : (node, value) ∈ elements.zip items) (inside : Meets reference part node value) :
      Meets reference part (.tuple place elements) (.array items)
  /-- In a field. -/
  | struct {place : Option Place} {fields : List (String × Node)} {extraKeys : ExtraKeys}
      {input : List (String × Value)} {name : String} {node : Node} {value : Value}
      (member : (name, node) ∈ fields) (found : Entries.get? name input = some value)
      (inside : Meets reference part node value) :
      Meets reference part (.struct place fields extraKeys) (.object input)
  /-- In an entry. -/
  | record {place : Option Place} {key item : Node} {input : List (String × Value)}
      {name : String} {value : Value} (member : (name, value) ∈ input)
      (inside : Meets reference part item value) :
      Meets reference part (.record place key item) (.object input)
  /-- In the variant of the tag. -/
  | variant {place : Option Place} {discriminator : String} {variants : List (String × Node)}
      {value tag : Value} {node : Node} (tagged : value.get? discriminator = some tag)
      (found : Entries.get? tag.toKey variants = some node)
      (inside : Meets reference part node value) :
      Meets reference part (.discriminatedUnion place discriminator variants) value
  /-- In a value that is present. -/
  | optional {place : Option Place} {inner : Node} {default : Option Value} {value : Value}
      (inside : Meets reference part inner value) :
      Meets reference part (.optional place inner default) value

/-- Encoding a value by a node comes to a part of it, by another node, behind a number of
references. -/
def References.Behind (references : References) :
    (hops : Nat) → Node → Value → (target : Node) → (part : Value) → Prop
  | 0, node, value, target, part => target = node ∧ part = value
  | hops + 1, node, value, target, part => ∃ reference between,
      node.Meets reference between value
        ∧ References.Behind references hops (references.resolve reference) between target part

/-- Encoding comes to nothing in null. -/
theorem Node.Meets.ne_null {reference : Place} {part value : Value} {node : Node}
    (meets : node.Meets reference part value) : value ≠ .null := by
  induction meets with
  | lazy notNull => exact notNull
  | variant tagged =>
    rintro rfl
    cases tagged
  | optional _ ih => exact ih
  | _ => simp

/-! ### What encoding depends on -/

section Encode

variable {references : References}

/-- Encode with `hops` references to go and by `ending` behind the last of them. -/
def encodeEnding (references : References) (ending : Encoder) : (hops : Nat) → Encoder
  | 0 => ending
  | hops + 1 => encodeNode references (some (encodeEnding references ending hops))

/-- How a part is encoded behind a reference. -/
def encodeBehind (references : References) (next : Option Encoder) (reference : Place)
    (part : Value) : Value :=
  match next with
  | none => part
  | some encode => encode (references.resolve reference) part

variable {next next' : Option Encoder}

theorem encodeNode_lazy {name : String} {reference : Place} {part : Value}
    (notNull : part ≠ .null) :
    encodeNode references next (.lazy name reference) part
      = encodeBehind references next reference part := by
  have present : part.isNull = false := eq_false_of_ne_true (mt Value.isNull_eq_true_iff.1 notNull)
  cases next <;> simp [encodeNode, unlessNull, present, encodeBehind]

/-- Fields are encoded alike if and only if each of those that are present is. -/
theorem encodeFields_eq_iff {fields : List (String × Node)} {input : Entries Value} :
    encodeFields references next fields input = encodeFields references next' fields input ↔
      ∀ name node value, (name, node) ∈ fields → Entries.get? name input = some value →
        encodeNode references next node value = encodeNode references next' node value := by
  induction fields with
  | nil => simp [encodeFields]
  | cons field rest ih =>
    obtain ⟨first, firstNode⟩ := field
    rw [encodeFields, encodeFields]
    cases found : Entries.get? first input with
    | none =>
      rw [ih]
      constructor
      · intro each name node value member here
        rcases List.mem_cons.1 member with eq | tail
        · cases eq
          rw [found] at here
          cases here
        · exact each name node value tail here
      · exact fun each name node value tail ↦ each name node value (List.mem_cons_of_mem _ tail)
    | some value =>
      rw [List.cons.injEq, Prod.mk.injEq, ih]
      constructor
      · rintro ⟨⟨-, head⟩, each⟩ name node v member here
        rcases List.mem_cons.1 member with eq | tail
        · cases eq
          rw [found] at here
          cases here
          exact head
        · exact each name node v tail here
      · intro each
        refine ⟨⟨rfl, each _ _ _ List.mem_cons_self found⟩, fun name node v tail ↦ ?_⟩
        exact each name node v (List.mem_cons_of_mem _ tail)

/-- A value is encoded alike if it is behind every reference that encoding comes to. -/
theorem encodeNode_congr {node : Node} (single : node.All Node.NoUnion)
    (plain : node.All Node.NoTransform) {value : Value}
    (agree : ∀ reference part, node.Meets reference part value →
      encodeBehind references next reference part = encodeBehind references next' reference part) :
    encodeNode references next node value = encodeNode references next' node value := by
  induction node using Node.induction generalizing value with
  | step node ih =>
    have child {n : Node} (member : n ∈ node.children) {v : Value}
        (inside : ∀ reference part, n.Meets reference part v →
          node.Meets reference part value) :
        encodeNode references next n v = encodeNode references next' n v :=
      ih n member (single.child member) (plain.child member) fun reference part meets ↦
        agree reference part (inside reference part meets)
    cases node with
    | string | number | integer | boolean | null | symbol | literal => rfl
    | union => exact single.here.elim
    | transform => exact plain.here.elim
    | array place item c =>
      cases value with
      | array items =>
        have each : ∀ v ∈ items,
            encodeNode references next item v = encodeNode references next' item v :=
          fun v member ↦ child (by simp [Node.children]) fun _ _ ↦ .array member
        exact congrArg Value.array (List.map_congr_left each)
      | _ => rfl
    | tuple place elements =>
      cases value with
      | array items =>
        by_cases length : items.length = elements.length
        · simp only [encodeNode, if_pos length, encodeElements_eq]
          rw [Value.array.injEq]
          apply List.map_congr_left
          rintro ⟨n, v⟩ member
          exact child (List.of_mem_zip member).1 fun _ _ ↦ .tuple length member
        · simp only [encodeNode, if_neg length]
      | _ => rfl
    | struct place fields extraKeys =>
      cases value with
      | object input =>
        have each : encodeFields references next fields input
            = encodeFields references next' fields input :=
          encodeFields_eq_iff.2 fun name n v member found ↦
            child (List.mem_map_of_mem member) fun _ _ ↦ .struct member found
        simp only [encodeNode, each]
      | _ => rfl
    | record place key item =>
      cases value with
      | object input =>
        simp only [encodeNode, Value.object.injEq]
        apply List.map_congr_left
        rintro ⟨name, v⟩ member
        rw [child (by simp [Node.children]) fun _ _ ↦ .record member]
      | _ => rfl
    | discriminatedUnion place discriminator variants =>
      cases tagged : value.get? discriminator with
      | none => simp only [encodeNode, tagged]
      | some tag =>
        simp only [encodeNode, tagged, encodeVariant_eq]
        cases found : Entries.get? tag.toKey variants with
        | none => rfl
        | some n =>
          have member := Entries.mem_of_get?_eq_some found
          simp only [Option.map_some, Option.getD_some]
          exact child (List.mem_map_of_mem member) fun _ _ ↦ .variant tagged found
    | optional place inner default =>
      rw [encodeNode_optional, encodeNode_optional]
      exact child (by simp [Node.children]) fun _ _ ↦ .optional
    | lazy name reference =>
      by_cases null : value = .null
      · rw [null, encodeNode_null, encodeNode_null]
      · rw [encodeNode_lazy null, encodeNode_lazy null]
        exact agree reference value (.lazy null)

/-- Where encoding comes to a reference, the result keeps what is behind it. -/
theorem Node.Meets.encodeBehind_eq {node : Node} {value part : Value} {reference : Place}
    (meets : node.Meets reference part value)
    (same : encodeNode references next node value = encodeNode references next' node value) :
    encodeBehind references next reference part = encodeBehind references next' reference part := by
  induction meets with
  | lazy notNull =>
    rw [encodeNode_lazy notNull, encodeNode_lazy notNull] at same
    exact same
  | array member _ ih =>
    apply ih
    simp only [encodeNode, Value.array.injEq] at same
    exact List.map_inj_left.1 same _ member
  | tuple length member _ ih =>
    apply ih
    simp only [encodeNode, if_pos length, encodeElements_eq, Value.array.injEq] at same
    exact List.map_inj_left.1 same _ member
  | struct member found _ ih =>
    apply ih
    simp only [encodeNode, Value.object.injEq] at same
    exact encodeFields_eq_iff.1 (List.append_cancel_right same) _ _ _ member found
  | record member _ ih =>
    apply ih
    simp only [encodeNode, Value.object.injEq] at same
    exact (Prod.mk.inj (List.map_inj_left.1 same _ member)).2
  | variant tagged found _ ih =>
    apply ih
    simpa only [encodeNode, tagged, encodeVariant_eq, found, Option.map_some, Option.getD_some]
      using same
  | optional _ ih =>
    apply ih
    rwa [encodeNode_optional, encodeNode_optional] at same

theorem encodeNode_eq_iff {node : Node} (single : node.All Node.NoUnion)
    (plain : node.All Node.NoTransform) {value : Value} :
    encodeNode references next node value = encodeNode references next' node value ↔
      ∀ reference part, node.Meets reference part value →
        encodeBehind references next reference part
          = encodeBehind references next' reference part :=
  ⟨fun same _ _ meets ↦ meets.encodeBehind_eq same, encodeNode_congr single plain⟩

/-! ### The last reference -/

variable {ending ending' : Encoder}

/-- Values are encoded alike with different endings if and only if the endings encode alike what
lies behind the last reference. -/
theorem encodeEnding_eq_iff
    (single : ∀ reference, (references.resolve reference).All Node.NoUnion)
    (plain : ∀ reference, (references.resolve reference).All Node.NoTransform) {hops : Nat}
    {node : Node} (singleHere : node.All Node.NoUnion) (plainHere : node.All Node.NoTransform)
    {value : Value} :
    encodeEnding references ending hops node value
        = encodeEnding references ending' hops node value ↔
      ∀ target part, references.Behind hops node value target part →
        ending target part = ending' target part := by
  induction hops generalizing node value with
  | zero =>
    constructor
    · rintro same _ _ ⟨rfl, rfl⟩
      exact same
    · exact fun agree ↦ agree node value ⟨rfl, rfl⟩
  | succ hops ih =>
    rw [encodeEnding, encodeEnding, encodeNode_eq_iff singleHere plainHere]
    constructor
    · rintro same target part ⟨reference, between, meets, behind⟩
      exact (ih (single reference) (plain reference)).1 (same reference between meets) target part
        behind
    · intro agree reference between meets
      apply (ih (single reference) (plain reference)).2
      exact fun target part behind ↦ agree target part ⟨reference, between, meets, behind⟩

/-- Encoding leaves what lies behind the last reference as it is. -/
theorem encodeAt_eq_encodeEnding
    (single : ∀ reference, (references.resolve reference).All Node.NoUnion)
    (plain : ∀ reference, (references.resolve reference).All Node.NoTransform) {hops : Nat}
    {node : Node} (singleHere : node.All Node.NoUnion) (plainHere : node.All Node.NoTransform)
    (value : Value) :
    encodeAt references hops node value
      = encodeEnding references (fun _ part ↦ part) (hops + 1) node value := by
  induction hops generalizing node value with
  | zero => exact encodeNode_congr singleHere plainHere fun _ _ _ ↦ rfl
  | succ hops ih =>
    refine encodeNode_congr singleHere plainHere fun reference part _ ↦ ?_
    exact ih (single reference) (plain reference) part

/-- An ending that encodes behind more references. -/
theorem encodeEnding_encodeEnding (hops more : Nat) :
    encodeEnding references (encodeEnding references ending more) hops
      = encodeEnding references ending (hops + more) := by
  induction hops with
  | zero => rw [encodeEnding, Nat.zero_add]
  | succ hops ih => rw [encodeEnding, ih, Nat.succ_add, encodeEnding]

end Encode

namespace Schema

/-- The external form of a value, where what lies behind the last reference that counts is encoded
by `ending`. -/
def encodeEnding (schema : Schema) (ending : Encoder) (value : Value) : Value :=
  Schemata.encodeEnding schema.references ending (defaultMaxDepth + 1) schema.root value

/-- What encoding does behind the last reference that counts matters for a value. -/
def CutsOff (schema : Schema) (value : Value) : Prop :=
  ∃ ending, schema.encodeEnding ending value ≠ schema.encode value

variable {schema : Schema} (single : schema.All Node.NoUnion) (plain : schema.All Node.NoTransform)

include single plain

/-- The external form of a value leaves what lies behind the last reference as it is. -/
theorem encode_eq_encodeEnding (value : Value) :
    schema.encode value = schema.encodeEnding (fun _ part ↦ part) value :=
  encodeAt_eq_encodeEnding single.resolved plain.resolved single.root plain.root value

/-- A value is cut off if and only if part of it lies behind one reference more than count. -/
theorem cutsOff_iff {value : Value} :
    schema.CutsOff value ↔ ∃ target part,
      schema.references.Behind (defaultMaxDepth + 1) schema.root value target part := by
  constructor
  · rintro ⟨ending, differs⟩
    by_contra none
    apply differs
    rw [encode_eq_encodeEnding single plain]
    apply (encodeEnding_eq_iff single.resolved plain.resolved single.root plain.root).2
    exact fun target part behind ↦ absurd ⟨target, part, behind⟩ none
  · rintro ⟨target, part, behind⟩
    -- An ending that changes every part.
    refine ⟨fun _ part ↦ .array [part], fun same ↦ ?_⟩
    rw [encode_eq_encodeEnding single plain] at same
    have kept := (encodeEnding_eq_iff single.resolved plain.resolved single.root plain.root).1 same
      target part behind
    have size := congrArg sizeOf kept
    simp at size
    omega

/-- What is not cut off is encoded the same however many references count. -/
theorem encodeAt_of_not_cutsOff {value : Value} (whole : ¬schema.CutsOff value) {hops : Nat}
    (enough : defaultMaxDepth ≤ hops) :
    encodeAt schema.references hops schema.root value = schema.encode value := by
  obtain ⟨more, rfl⟩ := Nat.exists_eq_add_of_le enough
  rw [encodeAt_eq_encodeEnding single.resolved plain.resolved single.root plain.root,
    Nat.add_right_comm, ← encodeEnding_encodeEnding]
  by_contra differs
  exact whole ⟨_, differs⟩

end Schema

/-! ### What decoding yields -/

/-- Parts of a default lie behind a limited number of references of its type. -/
def Node.DefaultsWithin (references : References) (bound : Nat) : Node → Prop
  | .optional _ inner (some default) => ∀ hops target part,
      references.Behind hops inner default target part → hops ≤ bound
  | _ => True

section Decode

variable {references : References} {limit bound : Nat}

/-- A value was decoded by a node with fewer levels to go. -/
def DecodedBelow (references : References) (limit levels : Nat) (node : Node) (decoded : Value) :
    Prop :=
  ∃ l value, l < levels ∧ decodeAt references limit l node value = .ok decoded

theorem DecodedBelow.succ {levels : Nat} {node : Node} {decoded : Value}
    (h : DecodedBelow references limit levels node decoded) :
    DecodedBelow references limit (levels + 1) node decoded := by
  obtain ⟨l, value, less, ok⟩ := h
  exact ⟨l, value, by omega, ok⟩

/-- What encoding a decoded value comes to with a reference was decoded behind that reference, with
fewer levels to go, or belongs to a default. -/
theorem Node.Meets.decoded {node : Node} {reference : Place} {part decoded : Value}
    (meets : node.Meets reference part decoded) (formed : node.All Node.Formed)
    (within : node.All (Node.DefaultsWithin references bound)) {levels : Nat} {value : Value}
    (ok : decodeAt references limit levels node value = .ok decoded) :
    DecodedBelow references limit levels (references.resolve reference) part
      ∨ ∀ hops target v,
        references.Behind hops (references.resolve reference) part target v → hops + 1 ≤ bound := by
  have ofDefault {place : Option Place} {inner : Node} {default : Value}
      (within : (Node.optional place inner (some default)).DefaultsWithin references bound)
      (inside : inner.Meets reference part default) (hops : Nat) (target : Node) (v : Value)
      (behind : references.Behind hops (references.resolve reference) part target v) :
      hops + 1 ≤ bound :=
    within (hops + 1) target v ⟨reference, part, inside, behind⟩
  induction meets generalizing levels value with
  | lazy =>
    obtain ⟨l, rfl, okTarget⟩ := decodeAt_lazy.1 ok
    exact .inl ⟨l, value, Nat.lt_succ_self l, okTarget⟩
  | array member _ ih =>
    obtain ⟨l, items, out, rfl, rfl, -, oks, eq⟩ := decodeAt_array.1 ok
    cases eq
    obtain ⟨raw, -, okItem⟩ := forall₂_exists_of_mem oks.flip member
    exact (ih formed.item within.item okItem).imp_left .succ
  | tuple _ member _ ih =>
    obtain ⟨l, items, out, rfl, rfl, length, oks, eq⟩ := decodeAt_tuple.1 ok
    cases eq
    obtain ⟨raw, -, okItem⟩ := forall₂_exists_of_mem
      (forall₂_zip_zip (s := fun node i o ↦ decodeAt references limit l node i = .ok o) length oks)
      member
    have inside := (List.of_mem_zip member).1
    exact (ih (formed.element inside) (within.element inside) okItem).imp_left .succ
  | struct member found inside ih =>
    obtain ⟨l, input, out, rfl, rfl, -, oks, eq⟩ := decodeAt_struct.1 ok
    cases eq
    rw [get?_decodeStruct oks, if_pos (Entries.mem_keys member)] at found
    have field := get?_of_decodeFields formed.here oks member
    rw [found, FieldDecoded.eq_def] at field
    split at field
    · obtain ⟨_, okField, eq⟩ := field
      cases eq
      exact (ih (formed.field member) (within.field member) okField).imp_left .succ
    · -- The field is absent, and its default stands in its place.
      have here := (within.field member).here
      cases inside with
      | optional insideInner =>
        cases field
        exact .inr (ofDefault here insideInner)
      | _ => cases field
  | record member _ ih =>
    obtain ⟨l, input, out, rfl, rfl, oks, eq⟩ := decodeAt_record.1 ok
    cases eq
    obtain ⟨raw, -, -, okItem⟩ :=
      forall₂_exists_of_mem oks.flip (Entries.mem_of_mem_ofList member)
    exact (ih formed.value within.value okItem).imp_left .succ
  | variant tagged found _ ih =>
    obtain ⟨input, written, node, rfl, wrote, chosen, okVariant⟩ :=
      decodeAt_discriminatedUnion.1 ok
    have memberChosen := Entries.mem_of_get?_eq_some chosen
    have kept := get?_discriminator_of_decodeAt (formed.variant memberChosen).here
      ((Node.checkVariants_eq_ok formed.here).1 _ _ memberChosen) wrote okVariant
    rw [kept] at tagged
    cases tagged
    rw [chosen] at found
    cases found
    exact ih (formed.variant memberChosen) (within.variant memberChosen) okVariant
  | @optional place inner default decoded inside ih =>
    rcases decodeAt_optional.1 ok with ⟨rfl, rfl⟩ | ⟨-, okInner⟩
    · cases default with
      | none => exact absurd rfl inside.ne_null
      | some default => exact .inr (ofDefault within.here inside)
    · exact ih (formed.child (by simp [Node.children])) (within.child (by simp [Node.children]))
        okInner

/-- Parts of a decoded value lie behind no more references than decoding had levels, but for those
that a default brings. -/
theorem hops_le_of_decodeAt (formed : ∀ reference, (references.resolve reference).All Node.Formed)
    (within : ∀ reference,
      (references.resolve reference).All (Node.DefaultsWithin references bound))
    {hops levels : Nat} {node target : Node} {value decoded part : Value}
    (formedHere : node.All Node.Formed)
    (withinHere : node.All (Node.DefaultsWithin references bound))
    (ok : decodeAt references limit levels node value = .ok decoded)
    (behind : references.Behind hops node decoded target part) : hops ≤ levels + bound := by
  induction hops generalizing levels node value decoded with
  | zero => exact Nat.zero_le _
  | succ hops ih =>
    obtain ⟨reference, between, meets, further⟩ := behind
    rcases meets.decoded formedHere withinHere ok with ⟨l, v, less, okBetween⟩ | inDefault
    · have fewer := ih (formed reference) (within reference) okBetween further
      omega
    · have few := inDefault hops target part further
      omega

end Decode

/-- Without unions and transforms, a decoded value is cut off if and only if part of it, other than
null, lies behind more references than encoding counts. It is not where the depth limit of decoding,
with the references that defaults bring, is within the count, and then any greater count gives the
same encoding. -/
theorem Schema.cutsOff_decoded {schema : Schema} (formed : schema.All Node.Formed)
    (single : schema.All Node.NoUnion) (plain : schema.All Node.NoTransform)
    {value decoded : Value} {maxDepth : Nat} (ok : schema.decode value maxDepth = .ok decoded) :
    (schema.CutsOff decoded ↔ ∃ target part,
        schema.references.Behind (defaultMaxDepth + 1) schema.root decoded target part)
      ∧ (∀ bound, schema.All (Node.DefaultsWithin schema.references bound) →
          maxDepth + bound ≤ defaultMaxDepth → ¬schema.CutsOff decoded)
      ∧ (¬schema.CutsOff decoded → ∀ hops ≥ defaultMaxDepth,
          encodeAt schema.references hops schema.root decoded = schema.encode decoded) := by
  refine ⟨cutsOff_iff single plain, fun bound within enough cut ↦ ?_, fun whole hops more ↦ ?_⟩
  · obtain ⟨target, part, behind⟩ := (cutsOff_iff single plain).1 cut
    have few :=
      hops_le_of_decodeAt formed.resolved within.resolved formed.root within.root ok behind
    omega
  · exact encodeAt_of_not_cutsOff single plain whole more

/-- An errand: a task, and who runs it, by reference and by default anyone. -/
def Schema.errand : Schema where
  root := .struct none
    [("task", .symbol), ("runner", .optional none (.lazy "runner" [0]) (some (.symbol "anyone")))]
    .reject
  references := [([0], .symbol)]

/-- A name by reference lies behind that reference, and nothing behind another. -/
theorem Schema.hops_le_errand {hops : Nat} {value part : Value} {target : Node}
    (behind : errand.references.Behind hops (.lazy "runner" [0]) value target part) : hops ≤ 1 := by
  cases hops with
  | zero => exact Nat.zero_le 1
  | succ hops =>
    obtain ⟨_, _, meets, further⟩ := behind
    cases meets
    cases hops with
    | zero => exact Nat.le_refl 1
    | succ =>
      obtain ⟨_, _, meets, -⟩ := further
      cases meets

theorem Schema.within_errand : errand.All (Node.DefaultsWithin errand.references 1) := by
  have leaf {node : Node} (here : node.DefaultsWithin errand.references 1)
      (noChild : node.children = []) : node.All (Node.DefaultsWithin errand.references 1) :=
    .intro here (by simp [noChild])
  have runner : (Node.optional none (.lazy "runner" [0]) (some (.symbol "anyone"))).All
      (Node.DefaultsWithin errand.references 1) := by
    refine .intro (fun _ _ _ ↦ hops_le_errand) ?_
    simpa [Node.children] using @leaf (.lazy _ _) trivial rfl
  refine .of_published trivial (.intro trivial fun child member ↦ ?_) ?_
  · rcases List.mem_pair.1 member with rfl | rfl
    · exact @leaf .symbol trivial rfl
    · exact runner
  · simpa [errand] using @leaf .symbol trivial rfl

/-- With two levels and the one reference of the default, nothing is cut off. -/
theorem Schema.cutsOff_decoded_errand :
    ∃ decoded, Schema.errand.decode (.object [("task", .string "post")]) 2 = .ok decoded
      ∧ 2 + 1 ≤ defaultMaxDepth ∧ ¬Schema.errand.CutsOff decoded
      ∧ encodeAt Schema.errand.references 1000 Schema.errand.root decoded
        = Schema.errand.encode decoded := by
  have formed : Schema.errand.All Node.Formed := .of_published trivial (by decide) (by decide)
  have single : Schema.errand.All Node.NoUnion := .of_published trivial (by decide) (by decide)
  have plain : Schema.errand.All Node.NoTransform := .of_published trivial (by decide) (by decide)
  obtain ⟨decoded, ok⟩ : ∃ decoded,
      Schema.errand.decode (.object [("task", .string "post")]) 2 = .ok decoded := ⟨_, rfl⟩
  obtain ⟨-, within, counts⟩ := cutsOff_decoded formed single plain ok
  have whole := within 1 within_errand (by decide)
  exact ⟨decoded, ok, by decide, whole, counts whole 1000 (by decide)⟩

/-! ### A long chain -/

/-- A chain of names, one more than links. -/
def Value.linked (name : Value) : (links : Nat) → Value
  | 0 => .object [("name", name)]
  | links + 1 => .object [("name", name), ("next", Value.linked name links)]

theorem Value.linked_ne_null (name : Value) (links : Nat) : Value.linked name links ≠ .null := by
  cases links <;> simp [linked]

/-- Decoding a chain takes two levels for each name. -/
theorem decodeAt_linked (limit links : Nat) :
    decodeAt Schema.chain.references limit (2 * links + 2) Schema.chain.root
        (.linked (.string "a") links)
      = .ok (.linked (.symbol "a") links) := by
  induction links with
  | zero => rfl
  | succ links ih =>
    have next : decodeAt Schema.chain.references limit (2 * links + 2)
        (.optional (some [1, 0]) (.lazy "chain" [0]) none) (.linked (.string "a") links)
          = .ok (.linked (.symbol "a") links) :=
      decodeAt_optional.2 (.inr ⟨Value.linked_ne_null _ _, ih⟩)
    have name : decodeAt Schema.chain.references limit (2 * links + 2) .symbol (.string "a")
        = .ok (.symbol "a") := rfl
    refine decodeAt_lazy.2 ⟨2 * links + 3, rfl, decodeAt_struct.2 ⟨2 * links + 2, _,
      [("name", .symbol "a"), ("next", .linked (.symbol "a") links)], rfl, rfl, fun _ ↦ rfl, ?_,
      rfl⟩⟩
    simp [decodeFields, located, Entries.get?_cons, name, next, bind, Except.bind, pure,
      Except.pure]

/-- Every name lies behind a reference of its own. -/
theorem behind_linked (links : Nat) : ∃ target part, Schema.chain.references.Behind (links + 1)
    Schema.chain.root (.linked (.symbol "a") links) target part := by
  induction links with
  | zero => exact ⟨_, _, [0], _, .lazy (Value.linked_ne_null _ _), rfl, rfl⟩
  | succ links ih =>
    obtain ⟨target, part, reference, between, meets, further⟩ := ih
    refine ⟨target, part, [0], _, .lazy (Value.linked_ne_null _ _), reference, between, ?_, further⟩
    exact .struct (List.mem_cons_of_mem _ List.mem_cons_self) rfl (.optional meets)

/-- A chain is encoded name by name, with a reference for each. -/
theorem encodeAt_linked_succ (hops links : Nat) :
    encodeAt Schema.chain.references (hops + 1) Schema.chain.root
        (.linked (.symbol "a") (links + 1))
      = .object [("name", .string "a"), ("next", encodeAt Schema.chain.references hops
          Schema.chain.root (.linked (.symbol "a") links))] := by
  rw [Schema.chain, encodeAt_lazy_succ, encodeAt_eq, encodeAt_eq]
  show Value.object [("name", .string "a"), ("next",
    encodeNode _ _ (.optional (some [1, 0]) (.lazy "chain" [0]) none) _)] = _
  rw [encodeNode_optional]

/-- With one reference less than a chain has names, its last name is not encoded. -/
theorem encodeAt_linked_ne (links : Nat) :
    encodeAt Schema.chain.references links Schema.chain.root (.linked (.symbol "a") links)
      ≠ .linked (.string "a") links := by
  induction links with
  | zero =>
    show Value.object [("name", .symbol "a")] ≠ .object [("name", .string "a")]
    simp
  | succ links ih =>
    rw [encodeAt_linked_succ]
    simpa [Value.linked] using ih

/-- A chain of 257 names decodes with 514 levels. Its last name lies behind one reference more than
count, so it stays a symbol. -/
theorem Schema.chain_cutsOff :
    Schema.chain.All Node.NoUnion ∧ Schema.chain.All Node.NoTransform
      ∧ ∃ decoded, Schema.chain.decode (.linked (.string "a") 256) 514 = .ok decoded
        ∧ Schema.chain.CutsOff decoded
        ∧ Schema.chain.encode decoded ≠ .linked (.string "a") 256 := by
  have single : Schema.chain.All Node.NoUnion := .of_published trivial (by decide) (by decide)
  have plain : Schema.chain.All Node.NoTransform := .of_published trivial (by decide) (by decide)
  have cut := (cutsOff_iff single plain).2 (behind_linked 256)
  exact ⟨single, plain, _, decodeAt_linked 514 256, cut, encodeAt_linked_ne 256⟩

end Schemata
