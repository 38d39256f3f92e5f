import Schemata.Proofs.Schema.Copied
import Schemata.Proofs.Schema.DistinctKeys
import Schemata.Proofs.Schema.KeyOrder
import Schemata.Proofs.Schema.RoundTrip
import Schemata.Proofs.Schema.Widening

/-!
# Unique items after decoding

An array checks that its items are unique before it decodes them, so decoding can make items equal
that were not (`repeated_after_decoding`). It cannot where an item is decoded to all that it was:
two such items stay apart, whatever the type (`unique_items_decoded`). On lossless nodes, which drop
no keys and fill in no default, that is every item, and the decoded array decodes again.
-/

namespace Schemata

namespace Value

/-! ### What is read back -/

/-- What is read back from the document of a value: its symbols have become strings. -/
def readBack (value : Value) : Value := ofJson value.toJson

theorem readBack_array (items : List Value) :
    (array items).readBack = .array (items.map readBack) := by
  simp [readBack, toJson, ofJson, toJsonItems_eq, ofJsonItems_eq, Function.comp_def]

theorem readBack_object (entries : Entries Value) :
    (object entries).readBack = .object (entries.map fun e ↦ (e.1, e.2.readBack)) := by
  simp [readBack, toJson, ofJson, toJsonEntries_eq, ofJsonMembers_eq, Function.comp_def]

theorem wellFormed_readBack {value : Value} (formed : value.WellFormed) :
    value.readBack.WellFormed := by
  induction value using induction with
  | array items ih =>
    rw [readBack_array, wellFormed_array_iff]
    exact List.forall_mem_map.2 fun item member ↦
      ih item member (wellFormed_array_iff.1 formed item member)
  | object entries ih =>
    obtain ⟨distinct, values⟩ := wellFormed_object_iff.1 formed
    rw [readBack_object, wellFormed_object_iff, Entries.Distinct, Entries.keys_map]
    exact ⟨distinct, List.forall_mem_map.2 fun entry member ↦ ih entry member (values entry member)⟩
  | _ => trivial

/-- Equal values are read back as equal ones. -/
theorem same_readBack {x y : Value} (fx : x.WellFormed) (fy : y.WellFormed)
    (equal : x.same y = true) : x.readBack.same y.readBack = true := by
  have text (s : String) : (string s).same (.string s) = true := by simp [same]
  refine same_induction (motive := fun x y ↦ x.readBack.same y.readBack = true) rfl
    (fun b ↦ by simp [readBack, toJson, ofJson, same]) (fun m n equal ↦ equal) text text
    (fun xs ys each ↦ ?_) (fun xs ys dx dy each ↦ ?_) fx fy equal
  · rw [readBack_array, readBack_array, same_array_iff, List.forall₂_map_left_iff,
      List.forall₂_map_right_iff]
    exact each
  · rw [readBack_object, readBack_object, same_object_iff]
    · exact each.map fun _ _ equal ↦ equal
    · rwa [Entries.Distinct, Entries.keys_map]
    · rwa [Entries.Distinct, Entries.keys_map]

/-- Loosely equal values are read back as loosely equal ones. -/
theorem looselyEq_readBack {x y : Value} (fx : x.WellFormed) (fy : y.WellFormed)
    (equal : x.looselyEq y = true) : x.readBack.looselyEq y.readBack = true := by
  by_cases numbers : (∃ m, x = .number m) ∧ ∃ n, y = .number n
  · obtain ⟨⟨m, rfl⟩, n, rfl⟩ := numbers
    exact equal
  · have isNumber {z : Value} (h : ∃ n, z.readBack = .number n) : ∃ n, z = .number n := by
      obtain ⟨n, h⟩ := h
      cases z <;> simp_all [readBack, toJson, ofJson]
    rw [looselyEq_eq_same numbers] at equal
    rw [looselyEq_eq_same (mt (And.imp isNumber isNumber) numbers)]
    exact same_readBack fx fy equal

/-- What the decoded value is read back as is the raw value, up to the order of entries: nothing was
dropped, added or replaced. -/
def Preserves (decoded raw : Value) : Prop := Reordered decoded.readBack raw

theorem Preserves.of_symbolFree {value : Value} (free : value.SymbolFree) :
    value.Preserves value := by
  rw [Preserves, readBack, ofJson_toJson value free]
  exact .refl value

/-- Values that are decoded to all that they were are not made equal. -/
theorem looselyEq_of_preserves {d e x y : Value} (fd : d.WellFormed) (fe : e.WellFormed)
    (fx : x.WellFormed) (fy : y.WellFormed) (hd : d.Preserves x) (he : e.Preserves y)
    (equal : d.looselyEq e = true) : x.looselyEq y = true :=
  looselyEq_congr hd he (wellFormed_readBack fd) fx (wellFormed_readBack fe) fy
    (looselyEq_readBack fd fe equal)

/-- No item repeats if no two items at different positions are loosely equal. -/
theorem hasRepeats_eq_false_iff_getElem {items : List Value}
    (formed : ∀ item ∈ items, item.WellFormed) :
    hasRepeats items = false ↔ ∀ (i j : Nat) (hi : i < items.length) (hj : j < items.length),
      i ≠ j → items[i].looselyEq items[j] = false := by
  rw [hasRepeats_eq_false_iff, List.pairwise_iff_getElem]
  constructor
  · intro later i j hi hj apart
    rcases Nat.lt_or_gt_of_ne apart with less | greater
    · refine Bool.eq_false_iff.2 fun equal ↦ Bool.eq_false_iff.1 (later i j hi hj less) ?_
      exact looselyEq_symm (formed _ (List.getElem_mem hi)) (formed _ (List.getElem_mem hj)) equal
    · exact later j i hj hi greater
  · exact fun all i j hi hj less ↦ all j i hj hi (Nat.ne_of_gt less)

/-- Items that are decoded to all that they were stay apart, if no raw item repeats. -/
theorem apart_of_preserves {items out : List Value} (formedItems : ∀ item ∈ items, item.WellFormed)
    (formedOut : ∀ item ∈ out, item.WellFormed) (length : out.length = items.length)
    (unique : hasRepeats items = false) {i j : Nat} (hi : i < out.length) (hj : j < out.length)
    (apart : i ≠ j) (keptI : out[i].Preserves items[i]) (keptJ : out[j].Preserves items[j]) :
    out[i].looselyEq out[j] = false := by
  refine Bool.eq_false_iff.2 fun equal ↦ ?_
  refine Bool.eq_false_iff.1 ((hasRepeats_eq_false_iff_getElem formedItems).1 unique i j
    (length ▸ hi) (length ▸ hj) apart) ?_
  exact looselyEq_of_preserves (formedOut _ (List.getElem_mem hi))
    (formedOut _ (List.getElem_mem hj)) (formedItems _ (List.getElem_mem _))
    (formedItems _ (List.getElem_mem _)) keptI keptJ equal

end Value

/-! ### Lossless nodes -/

/-- A node whose decoder drops no part of its input and fills in none: no transform, no default, and
no struct that drops undeclared keys. -/
def Node.Lossless : Node → Prop
  | .transform _ _ _ _ => False
  | .optional _ _ (some _) => False
  | .struct _ _ .allow => False
  | _ => True

theorem Node.Lossless.noTransform {node : Node} (h : node.Lossless) : node.NoTransform := by
  cases node <;> first | exact h.elim | trivial

theorem Node.Lossless.keepsDistinct {node : Node} (h : node.Lossless) (formed : node.Formed) :
    node.KeepsDistinct := by
  cases node with
  | optional _ _ default => cases default <;> first | exact h.elim | trivial
  | struct => exact formed
  | transform => exact h.elim
  | _ => trivial

theorem Node.Reversible.lossless {node : Node} (h : node.Reversible) : node.Lossless := by
  cases node with
  | struct _ _ extraKeys => cases extraKeys <;> exact h
  | optional _ _ default => cases default <;> exact h
  | transform => exact h.elim
  | _ => trivial

/-- A lossless field that is absent stays absent. -/
theorem Node.Lossless.absent?_eq {node : Node} (h : node.Lossless) {out : Option Value}
    (absent : node.absent? = some out) : out = none := by
  cases node with
  | optional _ _ default =>
    cases default with
    | none => exact (Option.some.inj absent).symm
    | some => exact h.elim
  | _ => cases absent

section Lossless

variable {references : References} {limit : Nat}

/-- Decoding keeps all of a value, and what it yields decodes again. -/
private def Retains (references : References) (limit levels : Nat) (node : Node) : Prop :=
  ∀ raw decoded, Value.SymbolFree raw → Value.WellFormed raw →
    decodeAt references limit levels node raw = .ok decoded →
    decoded.Preserves raw ∧ ∃ again, decodeAt references limit levels node decoded = .ok again

variable {levels : Nat} {place : Option Place}

private theorem retains_of_eq {node : Node}
    (kept : ∀ raw decoded, decodeAt references limit levels node raw = .ok decoded →
      raw = decoded) : Retains references limit levels node := by
  intro raw decoded free _ ok
  obtain rfl := kept raw decoded ok
  exact ⟨.of_symbolFree free, _, ok⟩

private theorem retains_union {members : List Node}
    (each : ∀ member ∈ members, Retains references limit levels member) :
    Retains references limit levels (.union place members) := by
  intro raw decoded free formed ok
  obtain ⟨before, member, after, rfl, -, okMember⟩ := decodeAt_union.1 ok
  obtain ⟨preserves, again, okAgain⟩ := each member (by simp) raw decoded free formed okMember
  exact ⟨preserves, exists_decodeAt_union (by simp) okAgain⟩

private theorem retains_optional {inner : Node} (each : Retains references limit levels inner) :
    Retains references limit levels (.optional place inner none) := by
  intro raw decoded free formed ok
  rcases decodeAt_optional.1 ok with ⟨rfl, rfl⟩ | ⟨-, okInner⟩
  · exact ⟨.of_symbolFree free, _, ok⟩
  · obtain ⟨preserves, again, okAgain⟩ := each raw decoded free formed okInner
    refine ⟨preserves, ?_⟩
    by_cases null : decoded = .null
    · exact ⟨_, decodeAt_optional.2 (.inl ⟨null, rfl⟩)⟩
    · exact ⟨again, decodeAt_optional.2 (.inr ⟨null, okAgain⟩)⟩

private theorem retains_lazy {name : String} {reference : Place}
    (each : ∀ l, levels = l + 1 → Retains references limit l (references.resolve reference)) :
    Retains references limit levels (.lazy name reference) := by
  intro raw decoded free formed ok
  obtain ⟨l, eq, okTarget⟩ := decodeAt_lazy.1 ok
  obtain ⟨preserves, again, okAgain⟩ := each l eq raw decoded free formed okTarget
  exact ⟨preserves, again, decodeAt_lazy.2 ⟨l, eq, okAgain⟩⟩

private theorem retains_discriminatedUnion {discriminator : String}
    {variants : List (String × Node)}
    (formed : (Node.discriminatedUnion place discriminator variants).Formed)
    (formedVariant : ∀ tag variant, (tag, variant) ∈ variants → variant.Formed)
    (each : ∀ tag variant, (tag, variant) ∈ variants →
      Retains references limit levels variant) :
    Retains references limit levels (.discriminatedUnion place discriminator variants) := by
  intro raw decoded free formedRaw ok
  obtain ⟨input, tag, variant, rfl, tagged, found, okVariant⟩ := decodeAt_discriminatedUnion.1 ok
  have member := Entries.mem_of_get?_eq_some found
  have fits := (Node.checkVariants_eq_ok formed).1 tag.toKey variant member
  have kept := get?_discriminator_of_decodeAt (formedVariant _ _ member) fits tagged okVariant
  obtain ⟨preserves, again, okAgain⟩ := each _ variant member _ decoded free formedRaw okVariant
  refine ⟨preserves, again, ?_⟩
  cases decoded with
  | object entries =>
    exact decodeAt_discriminatedUnion.2 ⟨entries, tag, variant, rfl, kept, found, okAgain⟩
  | _ => cases kept

private theorem retains_record {key item : Node}
    (resolved : ∀ reference, (references.resolve reference).All Node.NoTransform)
    (plain : key.All Node.NoTransform)
    (each : ∀ l, levels = l + 1 → Retains references limit l item) :
    Retains references limit levels (.record place key item) := by
  intro raw decoded free formed ok
  obtain ⟨l, input, out, eq, rfl, oks, rfl⟩ := decodeAt_record.1 ok
  have distinctInput := (Value.wellFormed_object_iff.1 formed).1
  obtain ⟨distinctOut, outEq⟩ := distinct_of_decodeEntries resolved plain distinctInput oks
  rw [outEq]
  have values := (List.forall₂_and_left _ _).2 ⟨fun entry member ↦
    And.intro (Value.symbolFree_object_iff.1 free entry member)
      ((Value.wellFormed_object_iff.1 formed).2 entry member), oks⟩
  have kept : List.Forall₂ (fun o entry ↦ o.1 = entry.1 ∧ o.2.Preserves entry.2
      ∧ (∃ k, decodeAt references limit l key (.string o.1) = .ok k ∧ k.toKey = o.1)
      ∧ ∃ again, decodeAt references limit l item o.2 = .ok again) out input := by
    refine values.flip.imp ?_
    rintro o entry ⟨⟨freeRaw, formedRaw⟩, ⟨k, okKey, toKey⟩, okItem⟩
    have same : o.1 = entry.1 := toKey.symm.trans (toKey_of_decodeAt resolved plain okKey)
    obtain ⟨preserves, again⟩ := each l eq entry.2 o.2 freeRaw formedRaw okItem
    exact ⟨same, preserves, ⟨k, same ▸ okKey, toKey⟩, again⟩
  constructor
  · rw [Value.Preserves, Value.readBack_object]
    refine .of_related (.of_forall₂ (List.forall₂_map_left_iff.2 (kept.imp ?_)))
    exact fun o entry h ↦ ⟨h.1, h.2.1⟩
  · have partner (o : String × Value) (member : o ∈ out) : ∃ e : String × Value,
        (∃ k, decodeAt references limit l key (.string o.1) = .ok k ∧ k.toKey = e.1)
          ∧ decodeAt references limit l item o.2 = .ok e.2 := by
      obtain ⟨entry, -, -, -, ⟨k, okKey, toKey⟩, again, okAgain⟩ :=
        forall₂_exists_of_mem kept member
      exact ⟨(o.1, again), ⟨k, okKey, toKey⟩, okAgain⟩
    obtain ⟨outs, oks⟩ := exists_forall₂ partner
    exact ⟨_, decodeAt_record.2 ⟨l, out, outs, eq, rfl, oks, rfl⟩⟩

private theorem retains_tuple {elements : List Node}
    (each : ∀ l, levels = l + 1 → ∀ element ∈ elements, Retains references limit l element) :
    Retains references limit levels (.tuple place elements) := by
  intro raw decoded free formed ok
  obtain ⟨l, items, out, eq, rfl, length, oks, rfl⟩ := decodeAt_tuple.1 ok
  rw [Value.symbolFree_array_iff] at free
  rw [Value.wellFormed_array_iff] at formed
  have lengthOut : out.length = elements.length := by
    have pairs := oks.length_eq
    rw [List.length_zip] at pairs
    omega
  have beside := forall₂_zip_zip
    (s := fun node raw d ↦ decodeAt references limit l node raw = .ok d) length oks
  have kept : List.Forall₂ (fun pair raw ↦ pair.2.Preserves raw
        ∧ ∃ again, decodeAt references limit l pair.1 pair.2 = .ok again)
      (elements.zip out) items := by
    refine ((forall₂_mem_left (forall₂_mem_left beside).flip).flip.imp ?_)
    rintro ⟨element, d⟩ raw ⟨inItems, inPairs, okRaw⟩
    exact each l eq element (List.of_mem_zip inPairs).1 raw d (free raw inItems)
      (formed raw inItems) okRaw
  constructor
  · rw [Value.Preserves, Value.readBack_array]
    refine .of_forall₂ (List.forall₂_map_left_iff.2 ?_)
    have items' : List.Forall₂ Value.Preserves ((elements.zip out).map Prod.snd) items :=
      List.forall₂_map_left_iff.2 (kept.imp fun _ _ h ↦ h.1)
    rwa [List.map_snd_zip (Nat.le_of_eq lengthOut)] at items'
  · obtain ⟨outs, oksAgain⟩ := exists_forall₂ fun pair member ↦
      (forall₂_exists_of_mem kept member).elim fun _ h ↦ h.2.2
    exact ⟨_, decodeAt_tuple.2 ⟨l, out, outs, eq, rfl, lengthOut, oksAgain, rfl⟩⟩

private theorem retains_array {item : Node} {c : ArrayConstraints}
    (formedItem : ∀ l raw d, Value.WellFormed raw →
      decodeAt references limit l item raw = .ok d → d.WellFormed)
    (each : ∀ l, levels = l + 1 → Retains references limit l item) :
    Retains references limit levels (.array place item c) := by
  intro raw decoded free formed ok
  obtain ⟨l, items, out, eq, rfl, sound, oks, rfl⟩ := decodeAt_array.1 ok
  rw [Value.symbolFree_array_iff] at free
  rw [Value.wellFormed_array_iff] at formed
  have kept : List.Forall₂ (fun d raw ↦ d.Preserves raw
      ∧ ∃ again, decodeAt references limit l item d = .ok again) out items := by
    refine (forall₂_mem_left oks).flip.imp ?_
    rintro d raw ⟨member, okRaw⟩
    exact each l eq raw d (free raw member) (formed raw member) okRaw
  have formedOut : ∀ d ∈ out, d.WellFormed := by
    intro d member
    obtain ⟨raw, inItems, okRaw⟩ := forall₂_exists_of_mem oks.flip member
    exact formedItem l raw d (formed raw inItems) okRaw
  have soundOut : c.violation? out = none := by
    obtain ⟨least, most, exact', unique⟩ := ArrayConstraints.violation?_eq_none_iff.1 sound
    rw [ArrayConstraints.violation?_eq_none_iff, kept.length_eq]
    refine ⟨least, most, exact', fun demanded ↦ ?_⟩
    refine (Value.hasRepeats_eq_false_iff_getElem formedOut).2 fun i j hi hj apart ↦ ?_
    exact Value.apart_of_preserves formed formedOut kept.length_eq (unique demanded) hi hj apart
      (kept.get hi (kept.length_eq ▸ hi)).1 (kept.get hj (kept.length_eq ▸ hj)).1
  constructor
  · rw [Value.Preserves, Value.readBack_array]
    exact .of_forall₂ (List.forall₂_map_left_iff.2 (kept.imp fun _ _ h ↦ h.1))
  · obtain ⟨outs, oksAgain⟩ := exists_forall₂ fun d member ↦
      (forall₂_exists_of_mem kept member).elim fun _ h ↦ h.2.2
    exact ⟨_, decodeAt_array.2 ⟨l, out, outs, eq, rfl, soundOut, oksAgain, rfl⟩⟩

section Struct

variable {l : Nat} {fields : List (String × Node)} {input : Entries Value}
  {out : List (String × Value)}

-- A declared field that is there is decoded to all that it was, and one that is absent stays so.
private theorem retained_field (distinct : Entries.Distinct fields)
    (losslessField : ∀ name node, (name, node) ∈ fields → node.Lossless)
    (each : ∀ name node, (name, node) ∈ fields → Retains references limit l node)
    (free : (Value.object input).SymbolFree) (formed : (Value.object input).WellFormed)
    (oks : decodeFields (decodeAt references limit l) input fields = .ok out) {name : String}
    {node : Node} (member : (name, node) ∈ fields) :
    Option.Rel (fun d raw ↦ d.Preserves raw
      ∧ ∃ again, decodeAt references limit l node d = .ok again)
      (Entries.get? name out) (Entries.get? name input) := by
  have there := get?_of_decodeFields distinct oks member
  cases found : Entries.get? name input with
  | none =>
    rw [found] at there
    rw [(losslessField name node member).absent?_eq there]
    exact .none
  | some raw =>
    rw [found] at there
    obtain ⟨d, okRaw, found'⟩ := there
    rw [found']
    exact .some (each name node member raw d (free.of_get? found) (formed.of_get? found) okRaw)

private theorem preserves_struct {extraKeys : ExtraKeys}
    (lossless : (Node.struct place fields extraKeys).Lossless)
    (free : (Value.object input).SymbolFree)
    (expected : extraKeys = .reject → undeclared fields input = [])
    (oks : decodeFields (decodeAt references limit l) input fields = .ok out)
    (kept : ∀ name node, (name, node) ∈ fields →
      Option.Rel Value.Preserves (Entries.get? name out) (Entries.get? name input)) :
    (Value.object (out ++ if extraKeys = .include then undeclared fields input else [])).Preserves
      (.object input) := by
  rw [Value.Preserves, Value.readBack_object]
  refine .of_related fun key ↦ ?_
  rw [Entries.get?_map, get?_decodeStruct oks]
  cases declared : Entries.get? key fields with
  | some node =>
    have member := Entries.mem_of_get?_eq_some declared
    have kept := kept key node member
    rw [if_pos (Entries.mem_keys member)]
    generalize Entries.get? key out = d, Entries.get? key input = raw at kept
    cases kept with
    | none => exact .none
    | some kept => exact .some kept
  | none =>
    have undeclaredKey : key ∉ Entries.keys fields := Entries.get?_eq_none_iff.1 declared
    rw [if_neg undeclaredKey]
    cases extraKeys with
    | reject =>
      have absent : key ∉ Entries.keys input := fun h ↦
        undeclaredKey (undeclared_eq_nil_iff.1 (expected rfl) key h)
      simp [Entries.get?_eq_none_iff.2 absent]
    | allow => exact lossless.elim
    | _ =>
      rw [if_pos rfl]
      cases found : Entries.get? key input with
      | none => exact .none
      | some raw => exact .some (Value.Preserves.of_symbolFree (free.of_get? found))

private theorem exists_decodeAt_struct_again {extraKeys : ExtraKeys} (levelsEq : levels = l + 1)
    (oks : decodeFields (decodeAt references limit l) input fields = .ok out)
    (again : ∀ name node, (name, node) ∈ fields → ∃ d,
      FieldDecoded (decodeAt references limit l) node (Entries.get? name out) d) :
    ∃ d, decodeAt references limit levels (.struct place fields extraKeys)
      (.object (out ++ if extraKeys = .include then undeclared fields input else [])) = .ok d := by
  obtain ⟨outs, oksAgain⟩ : ∃ outs, decodeFields (decodeAt references limit l)
      (out ++ if extraKeys = .include then undeclared fields input else []) fields = .ok outs :=
    decodeFields_ok_of_forall fun name node member ↦ by
      rw [get?_decodeStruct oks, if_pos (Entries.mem_keys member)]
      exact again name node member
  refine ⟨_, decodeAt_struct.2 ⟨l, _, outs, levelsEq, rfl, fun reject ↦ ?_, oksAgain, rfl⟩⟩
  subst reject
  refine undeclared_eq_nil_iff.2 fun key member ↦ ?_
  rw [if_neg (by decide), List.append_nil] at member
  exact (keys_sublist_of_decodeFields oks).subset member

private theorem retains_struct {extraKeys : ExtraKeys}
    (distinct : Entries.Distinct fields) (lossless : (Node.struct place fields extraKeys).Lossless)
    (losslessField : ∀ name node, (name, node) ∈ fields → node.Lossless)
    (each : ∀ l, levels = l + 1 → ∀ name node, (name, node) ∈ fields →
      Retains references limit l node) :
    Retains references limit levels (.struct place fields extraKeys) := by
  intro raw decoded free formed ok
  obtain ⟨l, input, out, eq, rfl, expected, oks, rfl⟩ := decodeAt_struct.1 ok
  have kept (name : String) (node : Node) (member : (name, node) ∈ fields) :=
    retained_field distinct losslessField (each l eq) free formed oks member
  constructor
  · exact preserves_struct lossless free expected oks fun name node member ↦
      optionRel_imp (kept name node member) fun _ _ h ↦ h.1
  · refine exists_decodeAt_struct_again eq oks fun name node member ↦ ?_
    have there := get?_of_decodeFields distinct oks member
    have kept := kept name node member
    generalize Entries.get? name out = d, Entries.get? name input = raw at kept there
    cases kept with
    | none => exact ⟨none, there⟩
    | some kept =>
      obtain ⟨-, again, okAgain⟩ := kept
      exact ⟨some again, again, okAgain, rfl⟩

end Struct

/-- Lossless nodes keep all of a value, and decode again what they decoded. -/
private theorem retains
    (resolved : ∀ reference, (references.resolve reference).All fun n ↦ n.Formed ∧ n.Lossless)
    {node : Node} (good : node.All fun n ↦ n.Formed ∧ n.Lossless) :
    Retains references limit levels node := by
  have plain : ∀ reference, (references.resolve reference).All Node.NoTransform := fun reference ↦
    (resolved reference).imp fun _ h ↦ h.2.noTransform
  have keeps : ∀ reference, (references.resolve reference).All Node.KeepsDistinct :=
    fun reference ↦ (resolved reference).imp fun _ h ↦ h.2.keepsDistinct h.1
  -- On the levels left, and within them on the node: a part of a container and the target of a
  -- reference have a level less.
  induction levels using Nat.strongRecOn generalizing node with
  | ind levels deeper =>
    have next (l : Nat) (eq : levels = l + 1) {n : Node}
        (h : n.All fun n ↦ n.Formed ∧ n.Lossless) : Retains references limit l n :=
      deeper l (by omega) h
    induction good with
    | @intro node here below ih =>
      have good : node.All fun n ↦ n.Formed ∧ n.Lossless := .intro here below
      cases node with
      | string =>
        refine retains_of_eq fun raw decoded ok ↦ ?_
        obtain ⟨_, rfl, -, rfl⟩ := decodeAt_string.1 ok
        rfl
      | number =>
        refine retains_of_eq fun raw decoded ok ↦ ?_
        obtain ⟨_, rfl, -, rfl⟩ := decodeAt_number.1 ok
        rfl
      | integer =>
        refine retains_of_eq fun raw decoded ok ↦ ?_
        obtain ⟨_, rfl, -, -, rfl⟩ := decodeAt_integer.1 ok
        rfl
      | boolean =>
        refine retains_of_eq fun raw decoded ok ↦ ?_
        obtain ⟨_, rfl, rfl⟩ := decodeAt_boolean.1 ok
        rfl
      | null =>
        refine retains_of_eq fun raw decoded ok ↦ ?_
        obtain ⟨rfl, rfl⟩ := decodeAt_null.1 ok
        rfl
      | literal => exact retains_of_eq fun _ _ ok ↦ (decodeAt_literal.1 ok).2.2
      | symbol =>
        intro raw decoded free _ ok
        obtain ⟨name, rfl | rfl, rfl⟩ := decodeAt_symbol.1 ok
        · exact ⟨.refl _, _, decodeAt_symbol.2 ⟨name, .inr rfl, rfl⟩⟩
        · exact free.elim
      | array =>
        refine retains_array (fun l raw d formed ok ↦ ?_) fun l eq ↦ next l eq good.item
        exact wellFormed_of_decodeAt keeps (good.item.imp fun _ h ↦ h.2.keepsDistinct h.1) formed ok
      | tuple => exact retains_tuple fun l eq _ member ↦ next l eq (good.element member)
      | struct =>
        apply retains_struct here.1 here.2
        · exact fun _ _ member ↦ (good.field member).here.2
        · exact fun l eq _ _ member ↦ next l eq (good.field member)
      | record =>
        apply retains_record plain (good.key.imp fun _ h ↦ h.2.noTransform)
        exact fun l eq ↦ next l eq good.value
      | union => exact retains_union ih
      | discriminatedUnion =>
        apply retains_discriminatedUnion here.1 fun _ _ member ↦ (good.variant member).here.1
        exact fun tag variant member ↦ ih variant (List.mem_map.2 ⟨(tag, variant), member, rfl⟩)
      | optional _ inner default =>
        cases default with
        | none => exact retains_optional (ih inner (by simp [Node.children]))
        | some => exact here.2.elim
      | transform => exact here.2.elim
      | lazy _ reference => exact retains_lazy fun l eq ↦ next l eq (resolved reference)

end Lossless

/-- A unique array on decoding. Two items that are decoded to all that they were stay apart. If all
nodes are lossless every item does, and the decoded array decodes again. If there is no union either
it also does so after encoding. -/
theorem Schema.unique_items_decoded {references : References} {place : Option Place} {item : Node}
    {c : ArrayConstraints} (unique : c.unique = true)
    (formed : Schema.All Node.Formed ⟨.array place item c, references⟩)
    (keeps : Schema.All Node.KeepsDistinct ⟨.array place item c, references⟩) {value : Value}
    (free : value.SymbolFree) (distinctKeys : value.WellFormed) {maxDepth : Nat}
    {items : List Value}
    (ok : Schema.decode ⟨.array place item c, references⟩ value maxDepth = .ok (.array items)) :
    (∃ raws, value = .array raws ∧ ∀ (i j : Nat) (d e x y : Value), i ≠ j →
        items[i]? = some d → items[j]? = some e → raws[i]? = some x → raws[j]? = some y →
        d.Preserves x → e.Preserves y → d.looselyEq e = false)
      ∧ (Schema.All Node.Lossless ⟨.array place item c, references⟩ →
        (∀ (i j : Nat) (d e : Value), i ≠ j → items[i]? = some d → items[j]? = some e →
          d.looselyEq e = false)
        ∧ ∃ again, Schema.decode ⟨.array place item c, references⟩ (.array items) maxDepth
          = .ok again)
      ∧ (Schema.All Node.Reversible ⟨.array place item c, references⟩ →
        maxDepth ≤ defaultMaxDepth →
        ∃ again, Schema.decode ⟨.array place item c, references⟩
          (Schema.encode ⟨.array place item c, references⟩ (.array items)) maxDepth
            = .ok again) := by
  have okArray : decodeAt references maxDepth maxDepth (.array place item c) value =
    .ok (.array items) := ok
  have formedItems := wellFormed_of_decodeAt keeps.resolved keeps.root distinctKeys okArray
  rw [Value.wellFormed_array_iff] at formedItems
  refine ⟨?_, fun lossless ↦ ?_, fun reversible limited ↦ ?_⟩
  · obtain ⟨l, raws, out, -, rfl, sound, oks, eq⟩ := decodeAt_array.1 okArray
    cases eq
    refine ⟨raws, rfl, fun i j d e x y apart hd he hx hy keptI keptJ ↦ ?_⟩
    obtain ⟨hi, rfl⟩ := List.getElem?_eq_some_iff.1 hd
    obtain ⟨hj, rfl⟩ := List.getElem?_eq_some_iff.1 he
    obtain ⟨_, rfl⟩ := List.getElem?_eq_some_iff.1 hx
    obtain ⟨_, rfl⟩ := List.getElem?_eq_some_iff.1 hy
    have noRepeats := (ArrayConstraints.violation?_eq_none_iff.1 sound).2.2.2 unique
    exact Value.apart_of_preserves (Value.wellFormed_array_iff.1 distinctKeys) formedItems
      oks.length_eq.symm noRepeats hi hj apart keptI keptJ
  · have good := formed.root.and lossless.root
    have resolved (reference : Place) :=
      (formed.resolved reference).and (lossless.resolved reference)
    obtain ⟨-, again, okAgain⟩ := retains resolved good value _ free distinctKeys okArray
    refine ⟨fun i j d e apart hd he ↦ ?_, again, okAgain⟩
    obtain ⟨hi, rfl⟩ := List.getElem?_eq_some_iff.1 hd
    obtain ⟨hj, rfl⟩ := List.getElem?_eq_some_iff.1 he
    -- The decoded array is unique itself, or it would not decode again.
    obtain ⟨_, _, _, -, eq, sound, -⟩ := decodeAt_array.1 okAgain
    cases eq
    exact (Value.hasRepeats_eq_false_iff_getElem formedItems).1
      ((ArrayConstraints.violation?_eq_none_iff.1 sound).2.2.2 unique) i j hi hj apart
  · have good := formed.root.and reversible.root
    have resolved (reference : Place) :=
      (formed.resolved reference).and (reversible.resolved reference)
    have goodPlain := good.imp fun _ h ↦ And.intro h.1 h.2.noTransform
    have resolvedPlain (reference : Place) :=
      (resolved reference).imp fun _ h ↦ And.intro h.1 h.2.noTransform
    have equal := encodeAt_decodeAt resolved good limited free distinctKeys okArray
    have copied : (encodeAt references defaultMaxDepth (.array place item c)
        (.array items)).Copied value :=
      copied_encodeAt resolvedPlain goodPlain
        (copied_of_decodeAt resolvedPlain goodPlain distinctKeys okArray)
    obtain ⟨moved, formedEncoded⟩ := copied.reordered_of_same distinctKeys equal
    obtain ⟨again, okAgain, -⟩ := decodeAt_reordered resolvedPlain goodPlain moved.symm distinctKeys
      formedEncoded okArray
    exact ⟨again, okAgain⟩

/-- Badges with a name, a note that may be absent, and anything else, no two alike. -/
def Schema.badges : Schema where
  root := .array none (.struct none [("name", .symbol), ("note", .optional none .null none)]
    .include) { unique := true }
  references := []

/-- Two badges that differ in an undeclared key, and a third with a note. -/
def Value.badges : Value :=
  .array [.object [("name", .string "a"), ("floor", .string "x")],
    .object [("floor", .string "y"), ("name", .string "a")],
    .object [("note", .null), ("name", .string "a")]]

private theorem all_badges {p : Node → Prop} (null : p .null) (symbol : p .symbol)
    (note : p (.optional none .null none)) (array : p Schema.badges.root)
    (badge : p (.struct none [("name", .symbol), ("note", .optional none .null none)] .include)) :
    Schema.badges.All p := by
  refine .of_published null ?_ (by simp [Schema.badges])
  refine (Node.all_iff _).2 ⟨array, ?_⟩
  simp_all [Schema.badges, Node.all_iff (.struct _ _ _), Node.all_iff .symbol, Node.all_iff .null,
    Node.all_iff (.optional _ _ _), Node.children, Entries.values]

/-- The badges stay apart, and decode again with their names as symbols and as strings. -/
theorem Schema.unique_items_decoded_badges :
    ∃ items, Schema.badges.decode Value.badges = .ok (.array items)
      ∧ (∀ (i j : Nat) (d e : Value), i ≠ j → items[i]? = some d → items[j]? = some e →
        d.looselyEq e = false)
      ∧ (∃ again, Schema.badges.decode (.array items) = .ok again)
      ∧ ∃ again, Schema.badges.decode (Schema.badges.encode (.array items)) = .ok again := by
  have formed : Schema.badges.All Node.Formed :=
    all_badges trivial trivial trivial trivial (by decide : ["name", "note"].Nodup)
  have keeps : Schema.badges.All Node.KeepsDistinct :=
    all_badges trivial trivial trivial trivial (by decide : ["name", "note"].Nodup)
  have free : Value.badges.SymbolFree := by
    simp [Value.badges, Value.SymbolFree, Value.SymbolFreeEntries, Value.SymbolFreeItems]
  have distinctKeys : Value.badges.WellFormed := by
    simp [Value.badges, Value.WellFormed, Value.WellFormedEntries, Value.WellFormedItems,
      Entries.Distinct]
  obtain ⟨items, ok⟩ : ∃ items, Schema.badges.decode Value.badges = .ok (.array items) := ⟨_, rfl⟩
  refine ⟨items, ok, ?_⟩
  obtain ⟨-, lossless, reversible⟩ :=
    Schema.unique_items_decoded rfl formed keeps free distinctKeys ok
  obtain ⟨apart, again⟩ := lossless (all_badges trivial trivial trivial trivial trivial)
  exact ⟨apart, again, reversible (all_badges trivial trivial trivial trivial trivial)
    (Nat.le_refl _)⟩

/-- Items that differ in a key that is dropped are decoded to equal items, and the array that
decoding yields is refused. -/
theorem Schema.repeated_after_decoding :
    ∃ items, Schema.decode ⟨.array none (.struct none [("a", .integer {})] .allow)
          { unique := true }, []⟩
        (.array [.object [("a", .number (.integer 1 (by decide))), ("b", .bool true)],
          .object [("a", .number (.integer 1 (by decide))), ("b", .bool false)]])
          = .ok (.array items)
      ∧ (∃ d e, items[0]? = some d ∧ items[1]? = some e ∧ d.looselyEq e = true)
      ∧ Schema.decode ⟨.array none (.struct none [("a", .integer {})] .allow)
          { unique := true }, []⟩ (.array items) = .error (.constraint .repeatedItems) :=
  ⟨_, rfl, ⟨_, _, rfl, rfl, rfl⟩, rfl⟩

end Schemata
