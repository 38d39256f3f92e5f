import Schemata.Proofs.Schema.Depth

/-!
# Raising the depth limit

What decodes within one limit decodes within any larger one (`accepts_of_le`). Not always to the
same value: a member of a union that runs out of levels is passed over like any other that fails, so
an earlier member may accept once it has more of them.

Nothing but a union passes over a failure. Without unions, decoding that runs out of levels fails
with exactly that (`exhausted_of_trips`), and what decodes without running out decodes alike within
any larger limit.
-/

namespace Schemata

section Levels

variable {references : References} {limit limit' levels levels' : Nat}

/-- The fields of a struct decode with another decoder that accepts what theirs accepts. -/
private theorem exists_decodeFields {decoder decoder' : Decoder} {input : Entries Value}
    {fields : List (String × Node)} {out : List (String × Value)}
    (accepts : ∀ node value decoded, decoder node value = .ok decoded →
      ∃ d, decoder' node value = .ok d)
    (ok : decodeFields decoder input fields = .ok out) :
    ∃ out', decodeFields decoder' input fields = .ok out' := by
  refine decodeFields_ok_of_forall fun name node member ↦ ?_
  obtain ⟨decoded, here⟩ := each_of_decodeFields ok name node member
  cases found : Entries.get? name input with
  | none =>
    rw [found] at here
    exact ⟨decoded, here⟩
  | some raw =>
    rw [found] at here
    obtain ⟨d, okField, -⟩ := here
    obtain ⟨d', okField'⟩ := accepts node raw d okField
    exact ⟨some d', d', okField', rfl⟩

/-- What a node accepts, it accepts with more levels to go. -/
theorem accepts_of_le (enough : levels ≤ levels') (node : Node) {value decoded : Value}
    (ok : decodeAt references limit levels node value = .ok decoded) :
    ∃ d, decodeAt references limit' levels' node value = .ok d := by
  induction levels using Nat.strongRecOn generalizing levels' node value decoded with
  | ind levels deeper =>
    induction node using Node.induction generalizing value decoded with
    | step node ih =>
      have next {l l' : Nat} (eq : levels = l + 1) (eq' : levels' = l' + 1) (node : Node)
          {value decoded : Value} (ok : decodeAt references limit l node value = .ok decoded) :
          ∃ d, decodeAt references limit' l' node value = .ok d :=
        deeper l (by omega) (by omega) node ok
      cases node with
      | string | number | integer | boolean | null | symbol | literal =>
        rw [decodeAt_eq] at ok ⊢
        exact ⟨decoded, ok⟩
      | array place item c =>
        obtain ⟨l, items, out, rfl, rfl, sound, oks, rfl⟩ := decodeAt_array.1 ok
        obtain ⟨l', rfl⟩ : ∃ l', levels' = l' + 1 := ⟨levels' - 1, by omega⟩
        obtain ⟨out', oks'⟩ := exists_forall₂ fun i member ↦ by
          obtain ⟨o, -, okItem⟩ := forall₂_exists_of_mem oks member
          exact next rfl rfl item okItem
        exact ⟨_, decodeAt_array.2 ⟨l', items, out', rfl, rfl, sound, oks', rfl⟩⟩
      | tuple place elements =>
        obtain ⟨l, items, out, rfl, rfl, length, oks, rfl⟩ := decodeAt_tuple.1 ok
        obtain ⟨l', rfl⟩ : ∃ l', levels' = l' + 1 := ⟨levels' - 1, by omega⟩
        obtain ⟨out', oks'⟩ := exists_forall₂ fun pair member ↦ by
          obtain ⟨o, -, okItem⟩ := forall₂_exists_of_mem oks member
          exact next rfl rfl pair.1 okItem
        exact ⟨_, decodeAt_tuple.2 ⟨l', items, out', rfl, rfl, length, oks', rfl⟩⟩
      | struct place fields extraKeys =>
        obtain ⟨l, input, out, rfl, rfl, expected, oks, rfl⟩ := decodeAt_struct.1 ok
        obtain ⟨l', rfl⟩ : ∃ l', levels' = l' + 1 := ⟨levels' - 1, by omega⟩
        obtain ⟨out', oks'⟩ := exists_decodeFields
          (fun node _ _ okField ↦ next rfl rfl node okField) oks
        exact ⟨_, decodeAt_struct.2 ⟨l', input, out', rfl, rfl, expected, oks', rfl⟩⟩
      | record place key item =>
        obtain ⟨l, input, out, rfl, rfl, oks, rfl⟩ := decodeAt_record.1 ok
        obtain ⟨l', rfl⟩ : ∃ l', levels' = l' + 1 := ⟨levels' - 1, by omega⟩
        have each (entry : String × Value) (member : entry ∈ input) : ∃ o : String × Value,
            (∃ k, decodeAt references limit' l' key (.string entry.1) = .ok k ∧ k.toKey = o.1)
              ∧ decodeAt references limit' l' item entry.2 = .ok o.2 := by
          obtain ⟨o, -, ⟨k, okKey, -⟩, okItem⟩ := forall₂_exists_of_mem oks member
          obtain ⟨k', okKey'⟩ := next rfl rfl key okKey
          obtain ⟨d, okItem'⟩ := next rfl rfl item okItem
          exact ⟨(k'.toKey, d), ⟨k', okKey', rfl⟩, okItem'⟩
        obtain ⟨out', oks'⟩ := exists_forall₂ each
        exact ⟨_, decodeAt_record.2 ⟨l', input, out', rfl, rfl, oks', rfl⟩⟩
      | union place members =>
        obtain ⟨before, member, after, rfl, -, okMember⟩ := decodeAt_union.1 ok
        have among : member ∈ before ++ member :: after := by simp
        obtain ⟨d, okMember'⟩ := ih member among okMember
        exact exists_decodeAt_union among okMember'
      | discriminatedUnion place discriminator variants =>
        obtain ⟨input, tag, variant, rfl, tagged, found, okVariant⟩ :=
          decodeAt_discriminatedUnion.1 ok
        have member := Entries.mem_of_get?_eq_some found
        obtain ⟨d, okVariant'⟩ := ih variant (List.mem_map.2 ⟨_, member, rfl⟩) okVariant
        exact ⟨d, decodeAt_discriminatedUnion.2
          ⟨input, tag, variant, rfl, tagged, found, okVariant'⟩⟩
      | optional place inner default =>
        rcases decodeAt_optional.1 ok with ⟨rfl, -⟩ | ⟨notNull, okInner⟩
        · exact ⟨_, decodeAt_optional.2 (.inl ⟨rfl, rfl⟩)⟩
        · obtain ⟨d, okInner'⟩ := ih inner (by simp [Node.children]) okInner
          exact ⟨d, decodeAt_optional.2 (.inr ⟨notNull, okInner'⟩)⟩
      | transform place inner target conversion =>
        obtain ⟨_, okInner, -⟩ := decodeAt_transform.1 ok
        obtain ⟨d, okInner'⟩ := ih inner (by simp [Node.children]) okInner
        exact ⟨_, decodeAt_transform.2 ⟨d, okInner', rfl⟩⟩
      | lazy name reference =>
        obtain ⟨l, rfl, okTarget⟩ := decodeAt_lazy.1 ok
        obtain ⟨l', rfl⟩ : ∃ l', levels' = l' + 1 := ⟨levels' - 1, by omega⟩
        obtain ⟨d, okTarget'⟩ := next rfl rfl _ okTarget
        exact ⟨d, decodeAt_lazy.2 ⟨l', rfl, okTarget'⟩⟩

end Levels

/-! ### Running out without unions -/

/-- A node other than a union: it does not pass over failures. -/
def Node.NoUnion : Node → Prop
  | .union _ _ => False
  | _ => True

instance : DecidablePred Node.NoUnion := fun node ↦
  decidable_of_iff (node.kind ≠ .union) (by cases node <;> simp [Node.kind, Node.NoUnion])

/-- A result that is the failure to go deeper than a limit. -/
def Exhausted {α : Type} (limit : Nat) (result : Except DecodeError α) : Prop :=
  ∃ error, result = .error error ∧ error.cause = .depthExceeded limit

namespace Exhausted

variable {α β : Type} {limit : Nat} {result : Except DecodeError α}

theorem located (h : Exhausted limit result) (segment : PathSegment) :
    Exhausted limit (located segment result) := by
  obtain ⟨error, rfl, cause⟩ := h
  exact ⟨.within segment error, rfl, cause⟩

theorem bind (h : Exhausted limit result) (next : α → Except DecodeError β) :
    Exhausted limit (result >>= next) := by
  obtain ⟨error, rfl, cause⟩ := h
  exact ⟨error, rfl, cause⟩

theorem map (h : Exhausted limit result) (f : α → β) : Exhausted limit (result.map f) := by
  obtain ⟨error, rfl, cause⟩ := h
  exact ⟨error, rfl, cause⟩

end Exhausted

variable {probe : Probe} {limit : Nat}

/-- The decoder of a probe fails for lack of levels where the probe runs out of them. -/
def Probe.Tells (probe : Probe) (limit : Nat) (node : Node) : Prop :=
  ∀ value, probe.trips node value = true → Exhausted limit (probe.decode node value)

/-- The first pair runs out, or it succeeds and the rest runs out. -/
theorem tripsPairs_cons_eq_true {node : Node} {value : Value} {rest : List (Node × Value)}
    (trips : probe.tripsPairs ((node, value) :: rest) = true) :
    probe.trips node value = true
      ∨ ∃ decoded, probe.decode node value = .ok decoded ∧ probe.tripsPairs rest = true := by
  rw [Probe.tripsPairs, Bool.or_eq_true, Bool.and_eq_true] at trips
  rcases trips with here | ⟨ok, later⟩
  · exact .inl here
  · cases result : probe.decode node value with
    | error => simp [result, Except.isOk, Except.toBool] at ok
    | ok decoded => exact .inr ⟨decoded, rfl, later⟩

theorem decodeItems_exhausted {item : Node} (tells : probe.Tells limit item) {items : List Value}
    (trips : probe.tripsPairs (items.map fun v ↦ (item, v)) = true) (i : Nat) :
    Exhausted limit (decodeItems (probe.decode item) i items) := by
  induction items generalizing i with
  | nil => cases trips
  | cons value rest ih =>
    rw [decodeItems]
    rcases tripsPairs_cons_eq_true trips with here | ⟨decoded, ok, later⟩
    · exact ((tells value here).located _).bind _
    · rw [ok]
      exact (ih later (i + 1)).bind _

theorem decodeElements_exhausted {nodes : List Node}
    (tells : ∀ node ∈ nodes, probe.Tells limit node) {items : List Value}
    (trips : probe.tripsPairs (nodes.zip items) = true) (i : Nat) :
    Exhausted limit (decodeElements probe.decode i nodes items) := by
  induction nodes generalizing items i with
  | nil => cases trips
  | cons node nodes ih =>
    obtain ⟨tellsHere, tellsRest⟩ := List.forall_mem_cons.1 tells
    cases items with
    | nil => cases trips
    | cons value rest =>
      rw [decodeElements]
      rcases tripsPairs_cons_eq_true trips with here | ⟨decoded, ok, later⟩
      · exact ((tellsHere value here).located _).bind _
      · rw [ok]
        exact (ih tellsRest later (i + 1)).bind _

theorem decodeFields_exhausted {input : Entries Value} {fields : List (String × Node)}
    (tells : ∀ node ∈ Entries.values fields, probe.Tells limit node)
    (trips : probe.tripsPairs (Level.fieldPairs input fields) = true) :
    Exhausted limit (decodeFields probe.decode input fields) := by
  induction fields with
  | nil => cases trips
  | cons field rest ih =>
    obtain ⟨name, node⟩ := field
    obtain ⟨tellsHere, tellsRest⟩ := List.forall_mem_cons.1 tells
    rw [Level.fieldPairs] at trips
    cases found : Entries.get? name input with
    | some raw =>
      rw [found] at trips
      simp only [decodeFields, found]
      rcases tripsPairs_cons_eq_true trips with here | ⟨decoded, ok, later⟩
      · exact ((tellsHere raw here).located _).bind _
      · rw [ok]
        exact (ih tellsRest later).bind _
    | none =>
      rw [found] at trips
      rw [decodeFields_absent found]
      cases node with
      | optional place inner default =>
        have later := ih tellsRest (by simpa [Node.isOptional] using trips)
        cases default with
        | none => exact later
        | some default => exact later.map _
      | _ => simp [Node.isOptional, Probe.tripsPairs] at trips

theorem decodeEntries_exhausted {key item : Node} (tellsKey : probe.Tells limit key)
    (tellsItem : probe.Tells limit item) {entries : List (String × Value)}
    (trips : probe.tripsPairs (Level.entryPairs key item entries) = true) :
    Exhausted limit (decodeEntries probe.decode key item entries) := by
  induction entries with
  | nil => cases trips
  | cons entry rest ih =>
    obtain ⟨k, value⟩ := entry
    rw [decodeEntries]
    rcases tripsPairs_cons_eq_true trips with hereKey | ⟨decodedKey, okKey, afterKey⟩
    · exact ((tellsKey _ hereKey).located _).bind _
    · rw [okKey]
      rcases tripsPairs_cons_eq_true afterKey with hereItem | ⟨decoded, ok, later⟩
      · exact ((tellsItem value hereItem).located _).bind _
      · rw [ok]
        exact (ih later).bind _

section Levels

variable {references : References} {levels : Nat}

/-- The probe of a level. -/
abbrev probeAt (references : References) (limit levels : Nat) : Probe :=
  ⟨decodeAt references limit levels, tripsAt references limit levels⟩

/-- One level deeper, what runs out on its pairs fails for lack of levels. -/
private theorem deeper_exhausted {α : Type} {pairs : List (Node × Value)}
    (trips : Probe.tripsDeeper (probeBelow references limit levels) pairs = true)
    {run : Decoder → Except DecodeError α}
    (tells : ∀ l, levels = l + 1 → (probeAt references limit l).tripsPairs pairs = true →
      Exhausted limit (run (decodeAt references limit l))) :
    Exhausted limit (deeper limit (decoderBelow references limit levels) run) := by
  cases levels with
  | zero => exact ⟨.depthExceeded limit, rfl, rfl⟩
  | succ l => exact tells l rfl trips

/-- Without unions, decoding that runs out of levels fails for lack of them. -/
theorem exhausted_of_trips
    (resolved : ∀ reference, (references.resolve reference).All Node.NoUnion) {node : Node}
    (single : node.All Node.NoUnion) : (probeAt references limit levels).Tells limit node := by
  induction levels using Nat.strongRecOn generalizing node with
  | ind levels deeper =>
    induction single with
    | @intro node here below ih =>
      intro value trips
      have next {l : Nat} (eq : levels = l + 1) {child : Node} (member : child ∈ node.children) :
          (probeAt references limit l).Tells limit child :=
        deeper l (by omega) (below child member)
      change tripsAt references limit levels node value = true at trips
      change Exhausted limit (decodeAt references limit levels node value)
      rw [tripsAt_eq] at trips
      rw [decodeAt_eq]
      cases node with
      | string | number | integer | boolean | null | symbol | literal => cases trips
      | array _ item c =>
        cases value with
        | array items =>
          rw [tripsNode, Bool.and_eq_true, Option.isNone_iff_eq_none] at trips
          show Exhausted limit (decodeArray limit _ item c (.array items))
          rw [decodeArray, trips.1]
          exact deeper_exhausted trips.2 fun l eq trips ↦
            (decodeItems_exhausted (next eq (by simp [Node.children])) trips 0).map _
        | _ => cases trips
      | tuple _ elements =>
        cases value with
        | array items =>
          rw [tripsNode, Bool.and_eq_true, decide_eq_true_iff] at trips
          show Exhausted limit (decodeTuple limit _ elements (.array items))
          rw [decodeTuple, if_pos trips.1]
          exact deeper_exhausted trips.2 fun l eq trips ↦
            (decodeElements_exhausted (fun _ member ↦ next eq member) trips 0).map _
        | _ => cases trips
      | struct _ fields extraKeys =>
        cases value with
        | object input =>
          rw [tripsNode, Bool.and_eq_true, Bool.not_eq_true'] at trips
          show Exhausted limit (decodeStruct limit _ fields extraKeys (.object input))
          rw [decodeStruct, if_neg (by simpa using trips.1)]
          exact deeper_exhausted trips.2 fun l eq trips ↦
            (decodeFields_exhausted (fun _ member ↦ next eq member) trips).bind _
        | _ => cases trips
      | record _ key item =>
        cases value with
        | object input =>
          show Exhausted limit (decodeRecord limit _ key item (.object input))
          rw [decodeRecord]
          exact deeper_exhausted trips fun l eq trips ↦
            (decodeEntries_exhausted (next eq (by simp [Node.children]))
              (next eq (by simp [Node.children])) trips).map _
        | _ => cases trips
      | union => exact here.elim
      | discriminatedUnion _ discriminator variants =>
        cases value with
        | object input =>
          rw [tripsNode] at trips
          cases tagged : Entries.get? discriminator input with
          | none => simp [tagged] at trips
          | some tag =>
            cases found : Entries.get? tag.toKey variants with
            | none => simp [tagged, tripsVariant_eq, found] at trips
            | some variant =>
              have member := Entries.mem_of_get?_eq_some found
              have fails := ih variant (List.mem_map.2 ⟨_, member, rfl⟩) (.object input)
                (by simpa [tagged, tripsVariant_eq, found, tripsAt_eq] using trips)
              simpa [decodeNode, nonNull, Value.isNull, tagged, decodeVariant_eq, found,
                decodeAt_eq] using fails
        | _ => cases trips
      | optional _ inner default =>
        rw [tripsNode, Bool.and_eq_true, Bool.not_eq_true'] at trips
        have fails := ih inner (by simp [Node.children]) value
          (by simpa only [tripsAt_eq] using trips.2)
        simpa [decodeNode, trips.1, decodeAt_eq] using fails
      | transform _ inner target conversion =>
        rw [tripsNode] at trips
        have fails := ih inner (by simp [Node.children]) value
          (by simpa only [tripsAt_eq] using trips)
        rw [decodeNode, ← decodeAt_eq]
        exact fails.map _
      | lazy name reference =>
        cases levels with
        | zero => exact ⟨.depthExceeded limit, rfl, rfl⟩
        | succ l => exact deeper l (Nat.lt_succ_self l) (resolved reference) value trips

end Levels

/-- What decodes within a limit decodes within any larger one. Without unions it decodes to the same
value, and any failure but for lack of levels is the same failure. -/
theorem Schema.decode_of_le {schema : Schema} {value : Value} {maxDepth maxDepth' : Nat}
    (le : maxDepth ≤ maxDepth') :
    ((∃ decoded, schema.decode value maxDepth = .ok decoded) →
        ∃ decoded, schema.decode value maxDepth' = .ok decoded)
      ∧ (schema.All Node.NoUnion →
          (∀ decoded, schema.decode value maxDepth = .ok decoded →
              schema.decode value maxDepth' = .ok decoded)
            ∧ ∀ error, schema.decode value maxDepth = .error error →
                (∀ limit, error.cause ≠ .depthExceeded limit) →
                schema.decode value maxDepth' = .error error) := by
  refine ⟨fun ⟨_, ok⟩ ↦ accepts_of_le le schema.root ok, fun single ↦ ?_⟩
  cases trips : schema.trips value maxDepth with
  | false =>
    rw [decode_of_not_trips trips le]
    exact ⟨fun _ ok ↦ ok, fun _ failed _ ↦ failed⟩
  | true =>
    obtain ⟨_, exceeded, cause⟩ := exhausted_of_trips single.resolved single.root value trips
    have failing : schema.decode value maxDepth = .error _ := exceeded
    rw [failing]
    refine ⟨nofun, fun error eq other ↦ ?_⟩
    cases eq
    exact absurd cause (other maxDepth)

/-- With levels to spare, the first member of a union may accept where it ran out before. -/
example :
    let schema : Schema := ⟨.union none [.lazy "name" [0], .string .plain], [([0], .symbol)]⟩
    schema.decode (.string "a") 0 = .ok (.string "a")
      ∧ schema.decode (.string "a") 1 = .ok (.symbol "a") := ⟨rfl, rfl⟩

/-- A chain of names. -/
def Schema.chain : Schema where
  root := .lazy "chain" [0]
  references := [([0], .struct (some [0])
    [("name", .symbol), ("next", .optional (some [1, 0]) (.lazy "chain" [0]) none)] .reject)]

/-- A chain of two names, whatever the second one is. -/
def Value.chain (name : Value) : Value :=
  .object [("name", .string "a"), ("next", .object [("name", name)])]

/-- Four levels are enough for a chain of two; its values and its failures stay with six. -/
theorem Schema.decode_of_le_chain :
    (∃ decoded, Schema.chain.decode (.chain (.string "b")) 4 = .ok decoded
        ∧ Schema.chain.decode (.chain (.string "b")) 6 = .ok decoded)
      ∧ ∃ error, Schema.chain.decode (.chain (.bool true)) 6 = .error error
        ∧ error.path = [.field "next", .field "name"]
        ∧ error.cause = .typeMismatch .symbol .boolean := by
  have single : Schema.chain.All Node.NoUnion := .of_published trivial (by decide) (by decide)
  obtain ⟨decoded, ok⟩ : ∃ decoded, Schema.chain.decode (.chain (.string "b")) 4 = .ok decoded :=
    ⟨_, rfl⟩
  refine ⟨⟨decoded, ok, ((decode_of_le (by decide)).2 single).1 decoded ok⟩, ?_⟩
  obtain ⟨error, failed, path, cause⟩ : ∃ error,
      Schema.chain.decode (.chain (.bool true)) 4 = .error error
        ∧ error.path = [.field "next", .field "name"]
        ∧ error.cause = .typeMismatch .symbol .boolean := ⟨_, rfl, rfl, rfl⟩
  exact ⟨error, ((decode_of_le (by decide)).2 single).2 error failed (by simp [cause]), path, cause⟩

end Schemata
