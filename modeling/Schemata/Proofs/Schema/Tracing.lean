import Schemata.Proofs.Schema.Depth

/-!
# The references that a decode depends on

Decoding reads the table of references only at the places that `traceAt` lists: on a table that
agrees with the first one there, it yields the same (`decodeAt_of_traceAt`). And it lists no
reference that does not stand in one of the nodes it visits (`mem_traceAt`): decoding against a tree
without references reads nothing.
-/

namespace Schemata

/-- The level underneath, where one is left. -/
def levelBelow (references : References) (limit : Nat) : (levels : Nat) → Option Level
  | 0 => none
  | levels + 1 => some ⟨decodeAt references limit levels, traceAt references limit levels⟩

theorem traceAt_eq (references : References) (limit levels : Nat) (node : Node) (value : Value) :
    traceAt references limit levels node value =
      traceNode references limit (levelBelow references limit levels) node value := by
  cases levels <;> rfl

theorem map_decode_levelBelow (references : References) (limit levels : Nat) :
    (levelBelow references limit levels).map Level.decode =
      decoderBelow references limit levels := by
  cases levels <;> rfl

theorem traceVariant_eq (references : References) (limit : Nat) (below : Option Level)
    (tag : String) (variants : List (String × Node)) (value : Value) :
    traceVariant references limit below tag variants value =
      ((Entries.get? tag variants).map fun variant ↦
        traceNode references limit below variant value).getD [] := by
  induction variants with
  | nil => rfl
  | cons entry rest ih =>
    obtain ⟨t, variant⟩ := entry
    by_cases h : t = tag
    · simp [traceVariant, Entries.get?_cons, h]
    · simp [traceVariant, Entries.get?_cons, h, ih]

/-! ### Where a traced reference stands -/

section Members

variable {references : References} {limit : Nat} {r : Place}

private theorem mem_tracePairs {level : Level} {pairs : List (Node × Value)}
    (traced : r ∈ level.tracePairs pairs) : ∃ pair ∈ pairs, r ∈ level.trace pair.1 pair.2 := by
  induction pairs with
  | nil => simp [Level.tracePairs] at traced
  | cons pair rest ih =>
    rw [Level.tracePairs, List.mem_append] at traced
    rcases traced with here | later
    · exact ⟨pair, List.mem_cons_self, here⟩
    · split at later
      · obtain ⟨pair', member, found⟩ := ih later
        exact ⟨pair', List.mem_cons_of_mem _ member, found⟩
      · simp at later

private theorem mem_fieldPairs {input : Entries Value} {fields : List (String × Node)}
    {pair : Node × Value} (member : pair ∈ Level.fieldPairs input fields) :
    pair.1 ∈ Entries.values fields := by
  induction fields with
  | nil => simp [Level.fieldPairs] at member
  | cons field rest ih =>
    rw [Level.fieldPairs] at member
    refine List.mem_cons.2 ?_
    split at member
    · rcases List.mem_cons.1 member with rfl | later
      · exact .inl rfl
      · exact .inr (ih later)
    · split at member
      · exact .inr (ih member)
      · simp at member

private theorem mem_traceMembers {below : Option Level} {members : List Node} {value : Value}
    (traced : r ∈ traceMembers references limit below members value) :
    ∃ member ∈ members, r ∈ traceNode references limit below member value := by
  induction members with
  | nil => simp [traceMembers] at traced
  | cons first rest ih =>
    rw [traceMembers, List.mem_append] at traced
    rcases traced with here | later
    · exact ⟨first, List.mem_cons_self, here⟩
    · split at later
      · simp at later
      · obtain ⟨member, among, found⟩ := ih later
        exact ⟨member, List.mem_cons_of_mem _ among, found⟩

variable {levels : Nat} {node : Node}

/-- A reference is traced within a child of a node, on the same level or one level deeper. -/
private def TracedBelow (references : References) (limit levels : Nat) (node : Node) (r : Place) :
    Prop :=
  ∃ child ∈ node.children, ∃ l v, (l = levels ∨ levels = l + 1)
    ∧ r ∈ traceAt references limit l child v

/-- What is traced for children one level deeper is traced below. -/
private theorem tracedBelow_of_pairs {pairs : List (Node × Value)} {level : Level}
    (below : levelBelow references limit levels = some level) (traced : r ∈ level.tracePairs pairs)
    (within : ∀ pair ∈ pairs, pair.1 ∈ node.children) :
    TracedBelow references limit levels node r := by
  obtain ⟨pair, member, found⟩ := mem_tracePairs traced
  cases levels with
  | zero => cases below
  | succ l =>
    cases below
    exact ⟨pair.1, within pair member, l, pair.2, .inr rfl, found⟩

/-- What is traced for a child on the same level is traced below. -/
private theorem tracedBelow_of_child {child : Node} (among : child ∈ node.children) {value : Value}
    (traced : r ∈ traceNode references limit (levelBelow references limit levels) child value) :
    TracedBelow references limit levels node r :=
  ⟨child, among, levels, value, .inl rfl, by rwa [traceAt_eq]⟩

private theorem tracedBelow_array {place : Option Place} {item : Node} {c : ArrayConstraints}
    {value : Value}
    (traced : r ∈ traceNode references limit (levelBelow references limit levels)
      (.array place item c) value) :
    TracedBelow references limit levels (.array place item c) r := by
  cases value with
  | array items =>
    simp only [traceNode] at traced
    split at traced
    · next level _ below => exact tracedBelow_of_pairs below traced (by simp [Node.children])
    · simp at traced
  | _ => simp [traceNode] at traced

private theorem tracedBelow_tuple {place : Option Place} {elements : List Node} {value : Value}
    (traced : r ∈ traceNode references limit (levelBelow references limit levels)
      (.tuple place elements) value) :
    TracedBelow references limit levels (.tuple place elements) r := by
  cases value with
  | array items =>
    simp only [traceNode] at traced
    split at traced
    · next level below =>
      split at traced
      · exact tracedBelow_of_pairs below traced fun _ member ↦ (List.of_mem_zip member).1
      · simp at traced
    · simp at traced
  | _ => simp [traceNode] at traced

private theorem tracedBelow_struct {place : Option Place} {fields : List (String × Node)}
    {extraKeys : ExtraKeys} {value : Value}
    (traced : r ∈ traceNode references limit (levelBelow references limit levels)
      (.struct place fields extraKeys) value) :
    TracedBelow references limit levels (.struct place fields extraKeys) r := by
  cases value with
  | object input =>
    simp only [traceNode] at traced
    split at traced
    · next level below =>
      split at traced
      · simp at traced
      · exact tracedBelow_of_pairs below traced fun _ ↦ mem_fieldPairs
    · simp at traced
  | _ => simp [traceNode] at traced

private theorem tracedBelow_record {place : Option Place} {key item : Node} {value : Value}
    (traced : r ∈ traceNode references limit (levelBelow references limit levels)
      (.record place key item) value) :
    TracedBelow references limit levels (.record place key item) r := by
  cases value with
  | object input =>
    simp only [traceNode] at traced
    split at traced
    · next level below =>
      refine tracedBelow_of_pairs below traced fun pair member ↦ ?_
      obtain ⟨entry, -, among⟩ := List.mem_flatMap.1 member
      simp only [List.mem_cons, List.not_mem_nil, or_false] at among
      rcases among with rfl | rfl <;> simp [Node.children]
    · simp at traced
  | _ => simp [traceNode] at traced

private theorem tracedBelow_discriminatedUnion {place : Option Place} {discriminator : String}
    {variants : List (String × Node)} {value : Value}
    (traced : r ∈ traceNode references limit (levelBelow references limit levels)
      (.discriminatedUnion place discriminator variants) value) :
    TracedBelow references limit levels (.discriminatedUnion place discriminator variants) r := by
  cases value with
  | object input =>
    simp only [traceNode] at traced
    cases tagged : Entries.get? discriminator input with
    | none => simp [tagged] at traced
    | some tag =>
      simp only [tagged, traceVariant_eq] at traced
      cases found : Entries.get? tag.toKey variants with
      | none => simp [found] at traced
      | some variant =>
        have among : variant ∈ Entries.values variants :=
          List.mem_map_of_mem (Entries.mem_of_get?_eq_some found)
        exact tracedBelow_of_child among (by simpa [found] using traced)
  | _ => simp [traceNode] at traced

/-- A traced reference is the node itself, or traced below it: within the target of the node, or
within one of its children. -/
private theorem traceAt_step {value : Value}
    (traced : r ∈ traceAt references limit levels node value) :
    (∃ name reference l, node = .lazy name reference ∧ levels = l + 1
        ∧ (r = reference ∨ r ∈ traceAt references limit l (references.resolve reference) value))
      ∨ TracedBelow references limit levels node r := by
  rw [traceAt_eq] at traced
  cases node with
  | lazy name reference =>
    cases levels with
    | zero => cases traced
    | succ l => exact .inl ⟨name, reference, l, rfl, rfl, List.mem_cons.1 traced⟩
  | string | number | integer | boolean | null | symbol | literal =>
    rw [traceNode_leaf rfl] at traced
    cases traced
  | array => exact .inr (tracedBelow_array traced)
  | tuple => exact .inr (tracedBelow_tuple traced)
  | struct => exact .inr (tracedBelow_struct traced)
  | record => exact .inr (tracedBelow_record traced)
  | union _ members =>
    simp only [traceNode] at traced
    obtain ⟨member, among, found⟩ := mem_traceMembers traced
    exact .inr (tracedBelow_of_child among found)
  | discriminatedUnion => exact .inr (tracedBelow_discriminatedUnion traced)
  | optional _ inner default =>
    simp only [traceNode] at traced
    split at traced
    · simp at traced
    · exact .inr (tracedBelow_of_child (List.mem_singleton.2 rfl) traced)
  | transform _ inner target conversion =>
    simp only [traceNode] at traced
    exact .inr (tracedBelow_of_child (List.mem_singleton.2 rfl) traced)

end Members

/-- A node that refers only to some places. -/
def Node.Refers (known : Place → Prop) : Node → Prop
  | .lazy _ reference => known reference
  | _ => True

/-- Decoding looks up only what the node, and what can be looked up from there, refer to. -/
theorem mem_traceAt {references : References} {limit levels : Nat} {known : Place → Prop}
    (resolved : ∀ r, known r → (references.resolve r).All (Node.Refers known)) {node : Node}
    (refers : node.All (Node.Refers known)) {value : Value} {r : Place}
    (traced : r ∈ traceAt references limit levels node value) : known r := by
  induction levels using Nat.strongRecOn generalizing node value with
  | ind levels deeper =>
    induction refers generalizing value with
    | @intro node here below ih =>
      rcases traceAt_step traced with ⟨name, reference, l, rfl, rfl, target⟩ | within
      · rcases target with rfl | later
        · exact here
        · exact deeper l (Nat.lt_succ_self l) (resolved reference here) later
      · obtain ⟨child, member, l, v, rfl | rfl, found⟩ := within
        · exact ih child member found
        · exact deeper l (Nat.lt_succ_self l) (below child member) found

/-- Decoding against a tree without references looks nothing up. -/
theorem traceAt_eq_nil {references : References} {limit levels : Nat} {node : Node}
    (refers : node.All (Node.Refers fun _ ↦ False)) (value : Value) :
    traceAt references limit levels node value = [] :=
  List.eq_nil_iff_forall_not_mem.2 fun _ traced ↦ mem_traceAt (fun _ ↦ False.elim) refers traced

/-! ### Tables that agree where a decode looks -/

section Agreement

variable {references references' : References} {limit levels : Nat}

/-- Two tables agree on all that decoding a value against a node looks up. -/
private def Alike (references references' : References) (limit levels : Nat) (node : Node)
    (value : Value) : Prop :=
  ∀ r ∈ traceAt references limit levels node value, references'.resolve r = references.resolve r

/-- Decoding a node yields the same on the second table, where the tables agree. -/
private def Unchanged (references references' : References) (limit levels : Nat) (node : Node) :
    Prop :=
  ∀ value, Alike references references' limit levels node value →
    decodeAt references' limit levels node value = decodeAt references limit levels node value

open scoped Classical in
/-- The probe that looks for references on which the tables differ. -/
private noncomputable def differences (references references' : References) (limit levels : Nat) :
    Probe where
  decode := decodeAt references limit levels
  trips node value := decide (¬Alike references references' limit levels node value)

private theorem agrees_of_unchanged {node : Node}
    (unchanged : Unchanged references references' limit levels node) :
    Agrees (differences references references' limit levels) (decodeAt references' limit levels)
      node node := by
  intro value safe
  exact unchanged value (by simpa [differences] using safe)

private theorem tripsPairs_of_alike {pairs : List (Node × Value)}
    (alike : ∀ r ∈ Level.tracePairs ⟨decodeAt references limit levels,
      traceAt references limit levels⟩ pairs, references'.resolve r = references.resolve r) :
    (differences references references' limit levels).tripsPairs pairs = false := by
  induction pairs with
  | nil => rfl
  | cons pair rest ih =>
    obtain ⟨node, value⟩ := pair
    simp only [Level.tracePairs, List.mem_append] at alike
    have here : Alike references references' limit levels node value := fun r traced ↦
      alike r (.inl traced)
    rw [Probe.tripsPairs, Bool.or_eq_false_iff, Bool.and_eq_false_imp]
    refine ⟨by simpa [differences] using here, fun ok ↦ ih fun r traced ↦ alike r (.inr ?_)⟩
    rwa [if_pos (show (decodeAt references limit levels node value).isOk = true from ok)]

/-- One level deeper, what yields the same on both tables there yields the same here. -/
private theorem deeper_alike {α : Type} {run run' : Decoder → Except DecodeError α}
    (same : ∀ l, levels = l + 1 →
      run' (decodeAt references' limit l) = run (decodeAt references limit l)) :
    deeper limit (decoderBelow references' limit levels) run' =
      deeper limit (decoderBelow references limit levels) run := by
  cases levels with
  | zero => rfl
  | succ l => exact same l rfl

private theorem decodeMembers_alike {members : List Node}
    (unchanged : ∀ member ∈ members, Unchanged references references' limit levels member)
    {value : Value}
    (alike : ∀ r ∈ traceMembers references limit (levelBelow references limit levels) members value,
      references'.resolve r = references.resolve r) :
    decodeMembers references' limit (decoderBelow references' limit levels) members value =
      decodeMembers references limit (decoderBelow references limit levels) members value := by
  induction members with
  | nil => rfl
  | cons member rest ih =>
    obtain ⟨first, later⟩ := List.forall_mem_cons.1 unchanged
    simp only [traceMembers, map_decode_levelBelow, List.mem_append] at alike
    have here := first value fun r traced ↦ alike r (.inl (by rwa [traceAt_eq] at traced))
    simp only [decodeAt_eq] at here
    rw [decodeMembers, decodeMembers, here]
    cases result :
        decodeNode references limit (decoderBelow references limit levels) member value with
    | ok decoded => rfl
    | error failure =>
      rw [ih later fun r traced ↦ alike r (.inr ?_)]
      simpa [result, Except.isOk, Except.toBool] using traced

variable {place : Option Place}

private theorem unchanged_array {item : Node} {c : ArrayConstraints}
    (same : ∀ l, levels = l + 1 → Unchanged references references' limit l item) :
    Unchanged references references' limit levels (.array place item c) := by
  intro value alike
  simp only [Alike, traceAt_eq] at alike
  rw [decodeAt_eq, decodeAt_eq]
  cases value with
  | array items =>
    simp only [traceNode] at alike
    cases sound : c.violation? items with
    | some violation => simp [decodeNode, decodeArray, sound, unlessBroken]
    | none =>
      simp only [decodeNode, decodeArray, sound, unlessBroken]
      refine congrArg _ (deeper_alike fun l eq ↦ ?_)
      subst eq
      rw [decodeItems_congr (agrees_of_unchanged (same l rfl))
        (tripsPairs_of_alike (by simpa only [sound, levelBelow] using alike))]
      rfl
  | _ => rfl

private theorem unchanged_tuple {elements : List Node}
    (same : ∀ l, levels = l + 1 →
      ∀ element ∈ elements, Unchanged references references' limit l element) :
    Unchanged references references' limit levels (.tuple place elements) := by
  intro value alike
  simp only [Alike, traceAt_eq] at alike
  rw [decodeAt_eq, decodeAt_eq]
  cases value with
  | array items =>
    simp only [traceNode] at alike
    simp only [decodeNode, decodeTuple]
    refine congrArg _ (ite_congr rfl (fun length ↦ deeper_alike fun l eq ↦ ?_) fun _ ↦ rfl)
    subst eq
    rw [decodeElements_congr
      (List.forall₂_same.2 fun n among ↦ agrees_of_unchanged (same l rfl n among))
      (tripsPairs_of_alike (by simpa only [levelBelow, length, if_true] using alike))]
    rfl
  | _ => rfl

private theorem unchanged_struct {fields : List (String × Node)} {extraKeys : ExtraKeys}
    (same : ∀ l, levels = l + 1 →
      ∀ field ∈ fields, Unchanged references references' limit l field.2) :
    Unchanged references references' limit levels (.struct place fields extraKeys) := by
  intro value alike
  simp only [Alike, traceAt_eq] at alike
  rw [decodeAt_eq, decodeAt_eq]
  cases value with
  | object input =>
    simp only [traceNode] at alike
    simp only [decodeNode, decodeStruct]
    refine congrArg _ (ite_congr rfl (fun _ ↦ rfl) fun expected ↦ deeper_alike fun l eq ↦ ?_)
    subst eq
    rw [decodeFields_congr
      (List.forall₂_same.2 fun field among ↦
        ⟨rfl, rfl, agrees_of_unchanged (same l rfl field among)⟩)
      (tripsPairs_of_alike (by simpa only [levelBelow, if_neg expected] using alike))]
    rfl
  | _ => rfl

private theorem unchanged_record {key item : Node}
    (same : ∀ l, levels = l + 1 → Unchanged references references' limit l key
      ∧ Unchanged references references' limit l item) :
    Unchanged references references' limit levels (.record place key item) := by
  intro value alike
  simp only [Alike, traceAt_eq] at alike
  rw [decodeAt_eq, decodeAt_eq]
  cases value with
  | object input =>
    simp only [traceNode] at alike
    simp only [decodeNode, decodeRecord]
    refine congrArg _ (deeper_alike fun l eq ↦ ?_)
    subst eq
    rw [decodeEntries_congr (agrees_of_unchanged (same l rfl).1)
      (agrees_of_unchanged (same l rfl).2) (tripsPairs_of_alike alike)]
    rfl
  | _ => rfl

private theorem unchanged_discriminatedUnion {discriminator : String}
    {variants : List (String × Node)}
    (same : ∀ variant ∈ variants, Unchanged references references' limit levels variant.2) :
    Unchanged references references' limit levels
      (.discriminatedUnion place discriminator variants) := by
  intro value alike
  simp only [Alike, traceAt_eq] at alike
  rw [decodeAt_eq, decodeAt_eq]
  cases value with
  | object input =>
    simp only [traceNode] at alike
    simp only [decodeNode]
    cases tagged : Entries.get? discriminator input with
    | none => rfl
    | some tag =>
      simp only [tagged, traceVariant_eq] at alike
      simp only [decodeVariant_eq]
      cases found : Entries.get? tag.toKey variants with
      | none => rfl
      | some variant =>
        have here := same _ (Entries.mem_of_get?_eq_some found) (.object input) fun r traced ↦
          alike r (by simpa [found, traceAt_eq] using traced)
        simp only [decodeAt_eq] at here
        rw [Option.map_some, Option.map_some, here]
  | _ => rfl

/-- A node decodes the same on both tables if its children do, those of an array, tuple, struct or
record one level deeper, and if what it refers to does. -/
private theorem unchanged_node {node : Node}
    (next : ∀ l, levels = l + 1 → ∀ n, Unchanged references references' limit l n)
    (here : ∀ child ∈ node.children, Unchanged references references' limit levels child) :
    Unchanged references references' limit levels node := by
  cases node with
  | string | number | integer | boolean | null | symbol | literal =>
    intro value _
    simp [decodeAt_eq, decodeNode]
  | array => exact unchanged_array fun l eq ↦ next l eq _
  | tuple => exact unchanged_tuple fun l eq element _ ↦ next l eq element
  | struct => exact unchanged_struct fun l eq field _ ↦ next l eq field.2
  | record => exact unchanged_record fun l eq ↦ ⟨next l eq _, next l eq _⟩
  | discriminatedUnion =>
    exact unchanged_discriminatedUnion fun variant among ↦
      here variant.2 (List.mem_map_of_mem among)
  | union _ members =>
    intro value alike
    simp only [Alike, traceAt_eq, traceNode] at alike
    have same := decodeMembers_alike here alike
    simp only [Node.children] at same
    simp only [decodeAt_eq, decodeNode, same]
  | optional _ inner default =>
    intro value alike
    simp only [Alike, traceAt_eq, traceNode] at alike
    simp only [decodeAt_eq, decodeNode]
    refine ite_congr rfl (fun _ ↦ rfl) fun notNull ↦ ?_
    have same := here inner (List.mem_singleton.2 rfl) value fun r traced ↦
      alike r (by simpa [notNull, traceAt_eq] using traced)
    simpa only [decodeAt_eq] using same
  | transform _ inner target conversion =>
    intro value alike
    simp only [Alike, traceAt_eq, traceNode] at alike
    have same := here inner (List.mem_singleton.2 rfl) value fun r traced ↦
      alike r (by rwa [traceAt_eq] at traced)
    simp only [decodeAt_eq] at same
    simp only [decodeAt_eq, decodeNode, same]
  | lazy name reference =>
    intro value alike
    rw [decodeAt_eq, decodeAt_eq]
    refine deeper_alike fun l eq ↦ ?_
    subst eq
    have target : references'.resolve reference = references.resolve reference :=
      alike reference (List.mem_cons_self ..)
    rw [target]
    exact next l rfl _ value fun r traced ↦ alike r (List.mem_cons_of_mem _ traced)

/-- Decoding depends on no reference but those that it looks up. -/
theorem decodeAt_of_traceAt {node : Node} {value : Value}
    (alike : ∀ r ∈ traceAt references limit levels node value,
      references'.resolve r = references.resolve r) :
    decodeAt references' limit levels node value = decodeAt references limit levels node value := by
  suffices unchanged : Unchanged references references' limit levels node from unchanged value alike
  clear alike
  induction levels using Nat.strongRecOn generalizing node with
  | ind levels deeper =>
    induction node using Node.induction with
    | step node ih =>
      exact unchanged_node (fun l eq n ↦ deeper l (by omega)) ih

/-- A tree without references decodes alike on all tables. -/
theorem decodeAt_of_refers {node : Node} (refers : node.All (Node.Refers fun _ ↦ False))
    (value : Value) :
    decodeAt references' limit levels node value = decodeAt references limit levels node value :=
  decodeAt_of_traceAt (by simp [traceAt_eq_nil refers])

end Agreement

end Schemata
