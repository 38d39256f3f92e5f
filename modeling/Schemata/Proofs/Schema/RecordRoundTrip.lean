import Schemata.Proofs.Schema.DepthLimit
import Schemata.Proofs.Schema.UnionRoundTrip
import Schemata.Schema.Conversions

/-!
# Records and the round trip

A record decodes each key through its key type and each value through its value type, but encodes
the values alone: a key is written as the text that it was decoded to. So where the value type
undoes its own decoding, the record does if and only if its key type changes no key
(`record_encode_decode_iff`), whatever the key type's own encoder would give back
(`record_keeps_wrapped_key`).
-/

namespace Schemata

/-- What decodes one level below the default limit decodes to the same value at the top. -/
def Schema.Steady (schema : Schema) : Prop :=
  ∀ value decoded,
    decodeAt schema.references defaultMaxDepth (defaultMaxDepth - 1) schema.root value
        = .ok decoded →
      schema.decode value = .ok decoded

/-- Only a union may choose otherwise when it has a level more. -/
theorem Schema.Steady.of_noUnion {schema : Schema} (single : schema.All Node.NoUnion) :
    schema.Steady := by
  intro value decoded ok
  cases trips : tripsAt schema.references defaultMaxDepth (defaultMaxDepth - 1) schema.root
      value with
  | false =>
    have same : schema.decode value =
        decodeAt schema.references defaultMaxDepth (defaultMaxDepth - 1) schema.root value :=
      decodeAt_of_not_trips (Nat.sub_le defaultMaxDepth 1) schema.root value trips
    exact same.trans ok
  | true =>
    have tells : (probeAt schema.references defaultMaxDepth (defaultMaxDepth - 1)).Tells
        defaultMaxDepth schema.root := exhausted_of_trips single.resolved single.root
    obtain ⟨_, exceeded, -⟩ := tells value trips
    cases ok.symm.trans exceeded

section Records

variable {references : References} {place : Option Place} {key item : Node}

/-- A record whose keys are unchanged has all of its entries, and they are encoded one by one. -/
theorem encodeAt_record_same {limit l hops : Nat} {input out : Entries Value}
    (free : (Value.object input).SymbolFree) (formed : (Value.object input).WellFormed)
    (oks : List.Forall₂ (fun entry o ↦
      (∃ k, decodeAt references limit l key (.string entry.1) = .ok k ∧ k.toKey = o.1)
        ∧ decodeAt references limit l item entry.2 = .ok o.2) input out)
    (fixed : ∀ entry ∈ input, ∀ k, decodeAt references limit l key (.string entry.1) = .ok k →
      k.toKey = entry.1)
    (undoes : ∀ raw d, Value.SymbolFree raw → Value.WellFormed raw →
      decodeAt references limit l item raw = .ok d →
      (encodeAt references hops item d).same raw = true) :
    Entries.ofList out = out
      ∧ (encodeAt references hops (.record place key item) (.object out)).same (.object input)
        = true := by
  have distinct := (Value.wellFormed_object_iff.1 formed).1
  have kept : List.Forall₂ (fun o entry ↦ o.1 = entry.1
      ∧ (encodeAt references hops item o.2).same entry.2 = true) out input := by
    refine (forall₂_mem_left oks).flip.imp ?_
    rintro o entry ⟨member, ⟨k, okKey, toKey⟩, ok⟩
    exact ⟨toKey.symm.trans (fixed entry member k okKey),
      undoes _ _ (Value.symbolFree_object_iff.1 free entry member)
        ((Value.wellFormed_object_iff.1 formed).2 entry member) ok⟩
  have keys : Entries.keys out = Entries.keys input :=
    Entries.keys_eq_of_forall₂
      (r := fun d raw ↦ (encodeAt references hops item d).same raw = true) kept
  have distinctOut : Entries.Distinct out := by
    rw [Entries.Distinct, keys]
    exact distinct
  refine ⟨Entries.ofList_of_distinct distinctOut, ?_⟩
  rw [encodeAt_record, Value.same_object_iff _ distinct]
  · exact .of_forall₂ (List.forall₂_map_left_iff.2 kept)
  · rw [Entries.Distinct, Entries.keys_map]
    exact distinctOut

/-- Encoding undoes the decoding of a record, entry for entry, if and only if the key type changes
no key of an entry that it accepts, where the value type undoes its own decoding. -/
theorem Schema.record_encode_decode_iff (law : Schema.RoundTrips ⟨item, references⟩)
    (steady : Schema.Steady ⟨item, references⟩) :
    (∀ value decoded, value.SymbolFree → value.WellFormed →
        Schema.decode ⟨.record place key item, references⟩ value = .ok decoded →
        (∃ input out, value = .object input ∧ decoded = .object out ∧ out.length = input.length)
          ∧ (Schema.encode ⟨.record place key item, references⟩ decoded).same value = true)
      ↔ ∀ (name : String) (k v d : Value), v.SymbolFree → v.WellFormed →
        decodeAt references defaultMaxDepth (defaultMaxDepth - 1) key (.string name) = .ok k →
        decodeAt references defaultMaxDepth (defaultMaxDepth - 1) item v = .ok d →
        k.toKey = name := by
  constructor
  · intro undoes name k v d free formed okKey okItem
    -- A record of this one entry shows what becomes of the key.
    have okRecord : Schema.decode ⟨.record place key item, references⟩ (.object [(name, v)]) =
        .ok (.object [(k.toKey, d)]) :=
      decodeAt_record.2 ⟨defaultMaxDepth - 1, [(name, v)], [(k.toKey, d)], rfl, rfl,
        .cons ⟨⟨k, okKey, rfl⟩, okItem⟩ .nil, rfl⟩
    have distinct (name : String) (v : Value) : Entries.Distinct [(name, v)] := by
      simp [Entries.Distinct]
    have freeEntry : (Value.object [(name, v)]).SymbolFree :=
      Value.symbolFree_object_iff.2 (by simpa using free)
    have formedEntry : (Value.object [(name, v)]).WellFormed :=
      Value.wellFormed_object_iff.2 ⟨distinct name v, by simpa using formed⟩
    obtain ⟨-, equal⟩ := undoes _ _ freeEntry formedEntry okRecord
    rw [Schema.encode, encodeAt_record, List.map_singleton,
      Value.same_object_iff (distinct _ _) (distinct _ _)] at equal
    simpa using (equal.mem_keys_iff k.toKey).1 (by simp)
  · intro fixed value decoded free formed ok
    obtain ⟨l, input, out, eq, rfl, oks, rfl⟩ := decodeAt_record.1 ok
    obtain rfl : l = defaultMaxDepth - 1 := by omega
    have fixedHere (entry : String × Value) (member : entry ∈ input) (k : Value)
        (okKey : decodeAt references defaultMaxDepth (defaultMaxDepth - 1) key (.string entry.1)
          = .ok k) : k.toKey = entry.1 := by
      obtain ⟨o, -, -, okItem⟩ := forall₂_exists_of_mem oks member
      exact fixed entry.1 k entry.2 o.2 (Value.symbolFree_object_iff.1 free entry member)
        ((Value.wellFormed_object_iff.1 formed).2 entry member) okKey okItem
    obtain ⟨merged, equal⟩ := encodeAt_record_same free formed oks fixedHere
      fun raw d freeRaw formedRaw okRaw ↦ law raw d freeRaw formedRaw (steady raw d okRaw)
    rw [merged]
    exact ⟨⟨input, out, rfl, rfl, oks.length_eq.symm⟩, equal⟩

end Records

private theorem roundTrips_integer : Schema.RoundTrips ⟨.integer {}, []⟩ := by
  intro value decoded _ formed ok
  obtain ⟨n, rfl, -, -, rfl⟩ := decodeAt_integer.1 ok
  simpa [Schema.encode, encodeAt_eq, encodeNode] using Value.same_refl formed

/-- A record of counts under symbolic names. -/
def Schema.counts : Schema := ⟨.record none .symbol (.integer {}), []⟩

/-- Symbols leave their keys unchanged, so the record gives its counts back. -/
theorem Schema.record_encode_decode_counts :
    ∃ decoded, Schema.counts.decode (.object [("a", .number (.integer 1 (by decide)))])
        = .ok decoded
      ∧ (Schema.counts.encode decoded).same (.object [("a", .number (.integer 1 (by decide)))])
        = true := by
  have steady : Schema.Steady ⟨.integer {}, []⟩ :=
    .of_noUnion (.of_published trivial (by decide) (by decide))
  obtain ⟨decoded, ok⟩ : ∃ decoded,
      Schema.counts.decode (.object [("a", .number (.integer 1 (by decide)))]) = .ok decoded :=
    ⟨_, rfl⟩
  refine ⟨decoded, ok, ?_⟩
  refine ((Schema.record_encode_decode_iff roundTrips_integer steady).2 ?_ _ _ ?_ ?_ ok).2
  · intro name k v d _ _ okKey _
    obtain ⟨_, eq | eq, rfl⟩ := decodeAt_symbol.1 okKey
    · cases eq
      rfl
    · cases eq
  · simp [Value.SymbolFree, Value.SymbolFreeEntries]
  · simp [Value.WellFormed, Value.WellFormedEntries, Entries.Distinct]

/-- The key type wraps a string and unwraps it again, the value type keeps its values, and still the
record gives back another key than it was given. -/
theorem Schema.record_keeps_wrapped_key :
    Schema.RoundTrips ⟨.transform none (.string .plain) "wrapped" .singleton, []⟩
      ∧ Schema.RoundTrips ⟨.integer {}, []⟩
      ∧ ∃ decoded, Schema.decode
          ⟨.record none (.transform none (.string .plain) "wrapped" .singleton) (.integer {}), []⟩
          (.object [("a", .number (.integer 1 (by decide)))]) = .ok decoded
        ∧ (Schema.encode
          ⟨.record none (.transform none (.string .plain) "wrapped" .singleton) (.integer {}), []⟩
          decoded).same (.object [("a", .number (.integer 1 (by decide)))]) = false := by
  refine ⟨?_, roundTrips_integer, _, rfl, rfl⟩
  intro value decoded _ formed ok
  obtain ⟨d, okInner, rfl⟩ := decodeAt_transform.1 ok
  obtain ⟨text, rfl, -, rfl⟩ := decodeAt_string.1 okInner
  simpa [Schema.encode, encodeAt_eq, encodeNode, unlessNull, Value.isNull, Conversion.singleton]
    using Value.same_refl formed

end Schemata
