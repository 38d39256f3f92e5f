import Schemata.Proofs.Schema.Decoding
import Schemata.Schema.Trace

/-!
# Running out of levels

Whether decoding runs out of levels anywhere, also where a union goes on to its next member and the
failure does not show (`tripsAt`). It walks as `traceAt` does: up to the first child that fails and
to the first member that accepts.

Where one decoder does not run out, another that agrees with it on all it visits yields the same:
one lemma `decode<Children>_congr` for each loop over children, in terms of `Agrees`.
-/

namespace Schemata

/-- What decoding does one level deeper, and whether it runs out of levels there. -/
structure Probe where
  /-- The decoder. -/
  decode : Decoder
  /-- Whether the decoder runs out of levels. -/
  trips : Node → Value → Bool

namespace Probe

/-- Whether one of some pairs of node and value runs out, up to the first that fails. -/
def tripsPairs (probe : Probe) : List (Node × Value) → Bool
  | [] => false
  | (node, value) :: rest =>
    probe.trips node value || (probe.decode node value).isOk && probe.tripsPairs rest

/-- Whether some pairs run out one level deeper, where no level may be left. -/
def tripsDeeper (below : Option Probe) (pairs : List (Node × Value)) : Bool :=
  match below with
  | none => true
  | some probe => probe.tripsPairs pairs

end Probe

mutual

/-- Whether decoding a node runs out: `below` is the level underneath, none where none is left. -/
def tripsNode (references : References) (limit : Nat) (below : Option Probe) :
    Node → Value → Bool
  | .array _ item c, .array items =>
    (c.violation? items).isNone && Probe.tripsDeeper below (items.map fun v ↦ (item, v))
  | .tuple _ elements, .array items =>
    decide (items.length = elements.length) && Probe.tripsDeeper below (elements.zip items)
  | .struct _ fields extraKeys, .object input =>
    !(extraKeys = .reject && !(undeclared fields input).isEmpty)
      && Probe.tripsDeeper below (Level.fieldPairs input fields)
  | .record _ key item, .object input =>
    Probe.tripsDeeper below (Level.entryPairs key item input)
  | .union _ members, value => tripsMembers references limit below members value
  | .discriminatedUnion _ discriminator variants, .object input =>
    match Entries.get? discriminator input with
    | some tag => tripsVariant references limit below tag.toKey variants (.object input)
    | none => false
  | .optional _ inner _, value =>
    !value.isNull && tripsNode references limit below inner value
  | .transform _ inner _ _, value => tripsNode references limit below inner value
  | .lazy _ reference, value =>
    match below with
    | none => true
    | some probe => probe.trips (references.resolve reference) value
  | _, _ => false

/-- Whether the members of a union run out, up to the first that accepts. -/
def tripsMembers (references : References) (limit : Nat) (below : Option Probe) :
    List Node → Value → Bool
  | [], _ => false
  | member :: rest, value =>
    tripsNode references limit below member value
      || !(decodeNode references limit (below.map Probe.decode) member value).isOk
        && tripsMembers references limit below rest value

/-- Whether the variant under a tag runs out. -/
def tripsVariant (references : References) (limit : Nat) (below : Option Probe) (tag : String) :
    List (String × Node) → Value → Bool
  | [], _ => false
  | (t, variant) :: rest, value =>
    if t = tag then tripsNode references limit below variant value
    else tripsVariant references limit below tag rest value

end

/-- Whether decoding with `levels` levels to go runs out of them. -/
def tripsAt (references : References) (limit : Nat) : (levels : Nat) → Node → Value → Bool
  | 0, node, value => tripsNode references limit none node value
  | levels + 1, node, value =>
    tripsNode references limit
      (some ⟨decodeAt references limit levels, tripsAt references limit levels⟩) node value

/-- Whether decoding a value goes beyond the depth limit anywhere, in a failing member of a union
included. -/
def Schema.trips (schema : Schema) (value : Value) (maxDepth : Nat := defaultMaxDepth) : Bool :=
  tripsAt schema.references maxDepth maxDepth schema.root value

/-- The probe one level below, where a level is left. -/
def probeBelow (references : References) (limit : Nat) : (levels : Nat) → Option Probe
  | 0 => none
  | levels + 1 => some ⟨decodeAt references limit levels, tripsAt references limit levels⟩

theorem tripsAt_eq (references : References) (limit levels : Nat) (node : Node) (value : Value) :
    tripsAt references limit levels node value =
      tripsNode references limit (probeBelow references limit levels) node value := by
  cases levels <;> rfl

theorem map_decode_probeBelow (references : References) (limit levels : Nat) :
    (probeBelow references limit levels).map Probe.decode =
      decoderBelow references limit levels := by
  cases levels <;> rfl

theorem tripsVariant_eq (references : References) (limit : Nat) (below : Option Probe)
    (tag : String) (variants : List (String × Node)) (value : Value) :
    tripsVariant references limit below tag variants value =
      ((Entries.get? tag variants).map fun variant ↦
        tripsNode references limit below variant value).getD false := by
  induction variants with
  | nil => rfl
  | cons entry rest ih =>
    obtain ⟨t, variant⟩ := entry
    by_cases h : t = tag
    · simp [tripsVariant, Entries.get?_cons, h]
    · simp [tripsVariant, Entries.get?_cons, h, ih]

/-! ### Agreement -/

/-- A decoder yields for one node what the probe yields for another, where the probe does not run
out. -/
def Agrees (probe : Probe) (decoder : Decoder) (node node' : Node) : Prop :=
  ∀ value, probe.trips node value = false → decoder node' value = probe.decode node value

variable {probe : Probe} {decoder : Decoder}

/-- The first pair does not run out, and the rest does not if the first succeeds. -/
theorem tripsPairs_cons {node : Node} {value : Value} {rest : List (Node × Value)}
    (safe : probe.tripsPairs ((node, value) :: rest) = false) :
    probe.trips node value = false
      ∧ ∀ decoded, probe.decode node value = .ok decoded → probe.tripsPairs rest = false := by
  rw [Probe.tripsPairs, Bool.or_eq_false_iff] at safe
  refine ⟨safe.1, fun decoded ok ↦ ?_⟩
  simpa [ok, Except.isOk, Except.toBool] using safe.2

theorem decodeItems_congr {item item' : Node} (agrees : Agrees probe decoder item item')
    {items : List Value} (safe : probe.tripsPairs (items.map fun v ↦ (item, v)) = false)
    (i : Nat) : decodeItems (decoder item') i items = decodeItems (probe.decode item) i items := by
  induction items generalizing i with
  | nil => rfl
  | cons value rest ih =>
    obtain ⟨here, later⟩ := tripsPairs_cons safe
    rw [decodeItems, decodeItems, agrees value here]
    cases result : probe.decode item value with
    | error e => rfl
    | ok decoded => rw [ih (later decoded result)]

theorem decodeElements_congr {nodes nodes' : List Node}
    (agrees : List.Forall₂ (Agrees probe decoder) nodes nodes') {items : List Value}
    (safe : probe.tripsPairs (nodes.zip items) = false) (i : Nat) :
    decodeElements decoder i nodes' items = decodeElements probe.decode i nodes items := by
  induction agrees generalizing items i with
  | nil => simp [decodeElements]
  | cons head _ ih =>
    cases items with
    | nil => simp [decodeElements]
    | cons value rest =>
      obtain ⟨here, later⟩ := tripsPairs_cons safe
      rw [decodeElements, decodeElements, head value here]
      cases result : probe.decode _ value with
      | error e => rfl
      | ok decoded => rw [ih (later decoded result)]

/-- Whether a field may be absent, and what replaces it, decides how its absence decodes. -/
theorem decodeFields_absent {decoder : Decoder} {input : Entries Value} {name : String}
    (absent : Entries.get? name input = none) (node : Node) (rest : List (String × Node)) :
    decodeFields decoder input ((name, node) :: rest) =
      match node.absent? with
      | some (some default) => (decodeFields decoder input rest).map ((name, default) :: ·)
      | some none => decodeFields decoder input rest
      | none => located (.field name) (.error .requiredValue) := by
  cases node with
  | optional place inner default =>
    cases default with
    | none => simp [decodeFields, absent, Node.absent?]
    | some default =>
      simp only [decodeFields, absent, Node.absent?]
      cases decodeFields decoder input rest <;> rfl
  | _ => simp [decodeFields, absent, Node.absent?]

theorem decodeFields_congr {fields fields' : List (String × Node)}
    (agrees : List.Forall₂ (fun f f' ↦ f.1 = f'.1 ∧ f.2.absent? = f'.2.absent?
      ∧ Agrees probe decoder f.2 f'.2) fields fields') {input : Entries Value}
    (safe : probe.tripsPairs (Level.fieldPairs input fields) = false) :
    decodeFields decoder input fields' = decodeFields probe.decode input fields := by
  induction agrees with
  | nil => rfl
  | @cons f f' rest rest' head _ ih =>
    obtain ⟨name, node⟩ := f
    obtain ⟨_, node'⟩ := f'
    obtain ⟨rfl, absence, agree⟩ := head
    rw [Level.fieldPairs] at safe
    cases found : Entries.get? name input with
    | some raw =>
      rw [found] at safe
      obtain ⟨here, later⟩ := tripsPairs_cons safe
      simp only [decodeFields, found, agree raw here]
      cases result : probe.decode node raw with
      | error e => rfl
      | ok decoded => rw [ih (later decoded result)]
    | none =>
      rw [found] at safe
      rw [decodeFields_absent found, decodeFields_absent found, ← absence]
      cases node with
      | optional place inner default =>
        have later : probe.tripsPairs (Level.fieldPairs input rest) = false := by
          simpa [Node.isOptional] using safe
        rw [ih later]
      | _ => rfl

theorem decodeEntries_congr {key key' item item' : Node} (agreesKey : Agrees probe decoder key key')
    (agreesItem : Agrees probe decoder item item') {entries : List (String × Value)}
    (safe : probe.tripsPairs (Level.entryPairs key item entries) = false) :
    decodeEntries decoder key' item' entries = decodeEntries probe.decode key item entries := by
  induction entries with
  | nil => rfl
  | cons entry rest ih =>
    obtain ⟨k, value⟩ := entry
    obtain ⟨hereKey, afterKey⟩ := tripsPairs_cons safe
    rw [decodeEntries, decodeEntries, agreesKey _ hereKey]
    cases resultKey : probe.decode key (.string k) with
    | error e => rfl
    | ok decodedKey =>
      obtain ⟨hereItem, later⟩ := tripsPairs_cons (afterKey decodedKey resultKey)
      rw [agreesItem _ hereItem]
      cases result : probe.decode item value with
      | error e => rfl
      | ok decoded => rw [ih (later decoded result)]

section Nodes

variable {references references' : References} {limit limit' levels levels' : Nat}

/-- At these levels, the second node decodes as the first does where that does not run out. -/
abbrev AgreesAt (references references' : References) (limit limit' levels levels' : Nat) :
    Node → Node → Prop :=
  Agrees ⟨decodeAt references limit levels, tripsAt references limit levels⟩
    (decodeAt references' limit' levels')

/-- One level deeper, what visits agreeing children yields the same. -/
private theorem deeper_congr {α : Type} {pairs : List (Node × Value)} (enough : levels ≤ levels')
    (safe : Probe.tripsDeeper (probeBelow references limit levels) pairs = false)
    {run run' : Decoder → Except DecodeError α}
    (same : ∀ l l', levels = l + 1 → levels' = l' + 1 →
      Probe.tripsPairs ⟨decodeAt references limit l, tripsAt references limit l⟩ pairs = false →
      run' (decodeAt references' limit' l') = run (decodeAt references limit l)) :
    deeper limit' (decoderBelow references' limit' levels') run' =
      deeper limit (decoderBelow references limit levels) run := by
  cases levels with
  | zero => simp [probeBelow, Probe.tripsDeeper] at safe
  | succ l =>
    obtain ⟨l', rfl⟩ : ∃ l', levels' = l' + 1 := ⟨levels' - 1, by omega⟩
    exact same l l' rfl rfl safe

private theorem decodeMembers_congr {members members' : List Node}
    (agrees : List.Forall₂ (AgreesAt references references' limit limit' levels levels') members
      members') {value : Value}
    (safe : tripsMembers references limit (probeBelow references limit levels) members value =
      false) :
    decodeMembers references' limit' (decoderBelow references' limit' levels') members' value =
      decodeMembers references limit (decoderBelow references limit levels) members value := by
  induction agrees with
  | nil => rfl
  | @cons member member' _ _ head _ ih =>
    rw [tripsMembers, map_decode_probeBelow, Bool.or_eq_false_iff] at safe
    have here := head value (by simpa only [tripsAt_eq] using safe.1)
    simp only [decodeAt_eq] at here
    rw [decodeMembers, decodeMembers, here]
    cases result :
        decodeNode references limit (decoderBelow references limit levels) member value with
    | ok decoded => rfl
    | error failure =>
      have later := safe.2
      rw [result] at later
      rw [ih (by simpa [Except.isOk, Except.toBool] using later)]

private theorem decodeArray_congr {item item' : Node} {c : ArrayConstraints} {items : List Value}
    (enough : levels ≤ levels')
    (below : ∀ l l', levels = l + 1 → levels' = l' + 1 →
      AgreesAt references references' limit limit' l l' item item') {place : Option Place}
    (safe : tripsNode references limit (probeBelow references limit levels) (.array place item c)
      (.array items) = false) :
    decodeArray limit' (decoderBelow references' limit' levels') item' c (.array items) =
      decodeArray limit (decoderBelow references limit levels) item c (.array items) := by
  rw [tripsNode] at safe
  rw [decodeArray, decodeArray]
  cases sound : c.violation? items with
  | some violation => rfl
  | none =>
    refine congrArg _ (deeper_congr enough (by simpa [sound] using safe) fun l l' eq eq' safe ↦ ?_)
    rw [decodeItems_congr (below l l' eq eq') safe]

private theorem decodeTuple_congr {elements elements' : List Node} {items : List Value}
    (enough : levels ≤ levels') (length : elements'.length = elements.length)
    (below : ∀ l l', levels = l + 1 → levels' = l' + 1 →
      List.Forall₂ (AgreesAt references references' limit limit' l l') elements elements')
    {place : Option Place}
    (safe : tripsNode references limit (probeBelow references limit levels) (.tuple place elements)
      (.array items) = false) :
    decodeTuple limit' (decoderBelow references' limit' levels') elements' (.array items) =
      decodeTuple limit (decoderBelow references limit levels) elements (.array items) := by
  rw [tripsNode, Bool.and_eq_false_imp, decide_eq_true_iff] at safe
  rw [decodeTuple, decodeTuple, length]
  split
  · next fits =>
    refine deeper_congr enough (safe fits) fun l l' eq eq' safe ↦ ?_
    rw [decodeElements_congr (below l l' eq eq') safe]
  · rfl

private theorem decodeStruct_congr {fields fields' : List (String × Node)} {extraKeys : ExtraKeys}
    {input : Entries Value} (enough : levels ≤ levels')
    (keys : Entries.keys fields' = Entries.keys fields)
    (below : ∀ l l', levels = l + 1 → levels' = l' + 1 →
      List.Forall₂ (fun f f' ↦ f.1 = f'.1 ∧ f.2.absent? = f'.2.absent?
        ∧ AgreesAt references references' limit limit' l l' f.2 f'.2) fields fields')
    {place : Option Place}
    (safe : tripsNode references limit (probeBelow references limit levels)
      (.struct place fields extraKeys) (.object input) = false) :
    decodeStruct limit' (decoderBelow references' limit' levels') fields' extraKeys
        (.object input) =
      decodeStruct limit (decoderBelow references limit levels) fields extraKeys
        (.object input) := by
  rw [tripsNode, Bool.and_eq_false_imp, Bool.not_eq_true'] at safe
  simp only [decodeStruct, undeclared_congr keys input]
  split
  · rfl
  · next expected =>
    refine deeper_congr enough (safe (by simpa using expected)) fun l l' eq eq' safe ↦ ?_
    rw [decodeFields_congr (below l l' eq eq') safe]

private theorem decodeRecord_congr {key key' item item' : Node} {input : Entries Value}
    (enough : levels ≤ levels')
    (below : ∀ l l', levels = l + 1 → levels' = l' + 1 →
      AgreesAt references references' limit limit' l l' key key'
        ∧ AgreesAt references references' limit limit' l l' item item')
    {place : Option Place}
    (safe : tripsNode references limit (probeBelow references limit levels)
      (.record place key item) (.object input) = false) :
    decodeRecord limit' (decoderBelow references' limit' levels') key' item' (.object input) =
      decodeRecord limit (decoderBelow references limit levels) key item (.object input) := by
  rw [tripsNode] at safe
  rw [decodeRecord, decodeRecord]
  refine deeper_congr enough safe fun l l' eq eq' safe ↦ ?_
  obtain ⟨agreesKey, agreesItem⟩ := below l l' eq eq'
  rw [decodeEntries_congr agreesKey agreesItem safe]

private theorem decodeVariant_congr {variants variants' : List (String × Node)}
    (agrees : List.Forall₂ (fun v v' ↦ v.1 = v'.1
      ∧ AgreesAt references references' limit limit' levels levels' v.2 v'.2) variants variants')
    {tag : String} {value : Value}
    (safe : tripsVariant references limit (probeBelow references limit levels) tag variants value =
      false) :
    decodeVariant references' limit' (decoderBelow references' limit' levels') tag variants' value =
      decodeVariant references limit (decoderBelow references limit levels) tag variants value := by
  have related := Entries.Related.of_forall₂ agrees
  rw [decodeVariant_eq, decodeVariant_eq]
  cases found : Entries.get? tag variants with
  | none => rw [related.none_left found, Option.map_none, Option.map_none]
  | some variant =>
    obtain ⟨variant', found', agrees⟩ := related.some_left found
    have same := agrees value (by simpa [tripsVariant_eq, found, tripsAt_eq] using safe)
    simp only [decodeAt_eq] at same
    rw [found', Option.map_some, Option.map_some, same]

/-- A node decodes as another does whose children decode alike: those of an array, tuple, struct or
record one level deeper, the others on the same level. -/
theorem decodeAt_withChildren {node : Node} (notLazy : node.kind ≠ .lazy) {nodes : List Node}
    (enough : levels ≤ levels')
    (below : ∀ l l', levels = l + 1 → levels' = l' + 1 →
      List.Forall₂ (AgreesAt references references' limit limit' l l') node.children nodes)
    (here : List.Forall₂ (AgreesAt references references' limit limit' levels levels')
      node.children nodes)
    (absence : node.kind = .struct →
      List.Forall₂ (fun n n' ↦ n.absent? = n'.absent?) node.children nodes)
    (place : Option Place) :
    AgreesAt references references' limit limit' levels levels' node
      (node.withChildren place nodes) := by
  intro value safe
  simp only [tripsAt_eq] at safe
  simp only [decodeAt_eq]
  cases node with
  | lazy => exact absurd rfl notLazy
  | string | number | integer | boolean | null | symbol | literal =>
    simp [Node.withChildren, decodeNode]
  | array _ item c =>
    obtain ⟨item', -, rfl⟩ := forall₂_singleton_left here
    cases value with
    | array items =>
      exact decodeArray_congr enough
        (fun l l' eq eq' ↦ (List.forall₂_cons.1 (below l l' eq eq')).1) safe
    | _ => rfl
  | tuple _ elements =>
    cases value with
    | array items => exact decodeTuple_congr enough here.length_eq.symm below safe
    | _ => rfl
  | struct _ fields extraKeys =>
    have length : nodes.length = fields.length := by
      simpa [Node.children, Entries.values] using here.length_eq.symm
    cases value with
    | object input =>
      refine decodeStruct_congr enough (Entries.keys_zip length) (fun l l' eq eq' ↦ ?_) safe
      exact Entries.forall₂_zip_keys (forall₂_and (absence rfl) (below l l' eq eq'))
    | _ => rfl
  | record _ key item =>
    obtain ⟨key', item', -, -, rfl⟩ := forall₂_pair_left here
    cases value with
    | object input =>
      refine decodeRecord_congr enough (fun l l' eq eq' ↦ ?_) safe
      obtain ⟨agreesKey, agreesItem⟩ := List.forall₂_cons.1 (below l l' eq eq')
      exact ⟨agreesKey, (List.forall₂_cons.1 agreesItem).1⟩
    | _ => rfl
  | union _ members =>
    rw [tripsNode] at safe
    have same := decodeMembers_congr here safe
    simp only [Node.children] at same
    simp only [Node.withChildren, decodeNode, same]
  | discriminatedUnion _ discriminator variants =>
    have length : nodes.length = variants.length := by
      simpa [Node.children, Entries.values] using here.length_eq.symm
    cases value with
    | object input =>
      rw [tripsNode] at safe
      simp only [Node.withChildren, decodeNode, Entries.keys_zip length]
      cases tagged : Entries.get? discriminator input with
      | none => rfl
      | some tag =>
        have same := decodeVariant_congr (Entries.forall₂_zip_keys here)
          (by simpa only [tagged] using safe)
        simp only [same]
    | _ => rfl
  | optional _ inner default =>
    obtain ⟨inner', agrees, rfl⟩ := forall₂_singleton_left here
    rw [tripsNode, Bool.and_eq_false_imp, Bool.not_eq_true'] at safe
    simp only [Node.withChildren, decodeNode]
    split
    · rfl
    · next notNull =>
      have same := agrees value (by simpa only [tripsAt_eq] using safe (by simpa using notNull))
      simpa only [decodeAt_eq] using same
  | transform _ inner target conversion =>
    obtain ⟨inner', agrees, rfl⟩ := forall₂_singleton_left here
    rw [tripsNode] at safe
    have same := agrees value (by simpa only [tripsAt_eq] using safe)
    simp only [decodeAt_eq] at same
    simp only [Node.withChildren, decodeNode, same]

/-- A reference decodes as another does where what they stand for does one level deeper. -/
theorem decodeAt_lazy_congr {r r' : Place} (enough : levels ≤ levels')
    (target : ∀ l l', levels = l + 1 → levels' = l' + 1 →
      AgreesAt references references' limit limit' l l' (references.resolve r)
        (references'.resolve r')) (name name' : String) :
    AgreesAt references references' limit limit' levels levels' (.lazy name r)
      (.lazy name' r') := by
  intro value safe
  cases levels with
  | zero => cases safe
  | succ l =>
    obtain ⟨l', rfl⟩ : ∃ l', levels' = l' + 1 := ⟨levels' - 1, by omega⟩
    exact target l l' rfl rfl value safe

/-- Where decoding does not run out of levels, more levels and another limit change nothing. -/
theorem decodeAt_of_not_trips (enough : levels ≤ levels') (node : Node) :
    AgreesAt references references limit limit' levels levels' node node := by
  induction levels using Nat.strongRecOn generalizing levels' node with
  | ind levels deeper =>
    induction node using Node.induction with
    | step node ih =>
      have next (node : Node) (l l' : Nat) (eq : levels = l + 1) (eq' : levels' = l' + 1) :
          AgreesAt references references limit limit' l l' node node :=
        deeper l (by omega) (by omega) node
      by_cases notLazy : node.kind = .lazy
      · cases node with
        | lazy name r => exact decodeAt_lazy_congr enough (next (references.resolve r)) name name
        | _ => cases notLazy
      · have same : AgreesAt references references limit limit' levels levels' node
            (node.withChildren node.place? node.children) :=
          decodeAt_withChildren notLazy enough
            (fun l l' eq eq' ↦ List.forall₂_same.2 fun child _ ↦ next child l l' eq eq')
            (List.forall₂_same.2 ih) (fun _ ↦ List.forall₂_same.2 fun _ _ ↦ rfl) node.place?
        rwa [Node.withChildren_children] at same

end Nodes

/-- A decode that stays within one limit is the same within any larger one. -/
theorem Schema.decode_of_not_trips {schema : Schema} {value : Value} {maxDepth maxDepth' : Nat}
    (safe : schema.trips value maxDepth = false) (le : maxDepth ≤ maxDepth') :
    schema.decode value maxDepth' = schema.decode value maxDepth :=
  decodeAt_of_not_trips le schema.root value safe

end Schemata
