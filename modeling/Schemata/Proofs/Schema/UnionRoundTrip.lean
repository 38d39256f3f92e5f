import Schemata.Proofs.Schema.Copied
import Schemata.Proofs.Schema.KeyOrder
import Schemata.Proofs.Schema.RoundTrip

/-!
# Unions and the round trip

A union decodes with the first member that accepts its input, and encodes with the first member that
accepts its own encoding. Where all members undo their own decoding, the union does so exactly if
none of the members before the decoding one accepts what it encodes (`union_encode_decode_iff`). The
members' laws alone do not give that: a member that drops undeclared keys as it encodes turns a
value that it rejects into one that it accepts (`union_loses_key`).
-/

namespace Schemata

/-- Encoding undoes decoding, under the default limit. -/
def Schema.RoundTrips (schema : Schema) : Prop :=
  ∀ value decoded, value.SymbolFree → value.WellFormed → schema.decode value = .ok decoded →
    (schema.encode decoded).same value = true

theorem accepts_eq_true_iff {references : References} {node : Node} {value : Value} :
    accepts references node value = true ↔
      ∃ decoded, decodeAt references defaultMaxDepth defaultMaxDepth node value = .ok decoded := by
  rw [accepts]
  cases decodeAt references defaultMaxDepth defaultMaxDepth node value <;>
    simp [Except.isOk, Except.toBool]

/-- What equals the input after decoding by one node and encoding by another is accepted by the
nodes that accept the input, and by no others. -/
theorem accepts_encodeAt_iff {references : References}
    (resolved : ∀ reference,
      (references.resolve reference).All fun n ↦ n.Formed ∧ n.NoTransform)
    {decoding encoding node : Node} (goodD : decoding.All fun n ↦ n.Formed ∧ n.NoTransform)
    (goodE : encoding.All fun n ↦ n.Formed ∧ n.NoTransform)
    (good : node.All fun n ↦ n.Formed ∧ n.NoTransform) {limit levels hops : Nat}
    {value decoded : Value} (formed : value.WellFormed)
    (ok : decodeAt references limit levels decoding value = .ok decoded)
    (equal : (encodeAt references hops encoding decoded).same value = true) :
    accepts references node (encodeAt references hops encoding decoded) = true ↔
      accepts references node value = true := by
  have copied : (encodeAt references hops encoding decoded).Copied value :=
    copied_encodeAt resolved goodE (copied_of_decodeAt resolved goodD formed ok)
  obtain ⟨moved, formedE⟩ := copied.reordered_of_same formed equal
  rw [accepts_eq_true_iff, accepts_eq_true_iff]
  constructor
  · rintro ⟨d, okE⟩
    obtain ⟨d', ok', -⟩ := decodeAt_reordered resolved good moved formedE formed okE
    exact ⟨d', ok'⟩
  · rintro ⟨d, okV⟩
    obtain ⟨d', ok', -⟩ := decodeAt_reordered resolved good moved.symm formed formedE okV
    exact ⟨d', ok'⟩

/-- A union whose members undo their own decoding gives an input back if and only if no member
before the first that accepts the input accepts its own encoding of the decoded value. -/
theorem Schema.union_encode_decode_iff {references : References} {place : Option Place}
    {members : List Node} (formed : Schema.All Node.Formed ⟨.union place members, references⟩)
    (plain : Schema.All Node.NoTransform ⟨.union place members, references⟩)
    (laws : ∀ m ∈ members, Schema.RoundTrips ⟨m, references⟩) {value : Value}
    (free : value.SymbolFree) (distinctKeys : value.WellFormed) {decoded : Value}
    (ok : Schema.decode ⟨.union place members, references⟩ value = .ok decoded) :
    (Schema.encode ⟨.union place members, references⟩ decoded).same value = true ↔
      ∀ m ∈ members.takeWhile fun m ↦ !accepts references m value,
        accepts references m (Schema.encode ⟨m, references⟩ decoded) = false := by
  have resolved (reference : Place) :
      (references.resolve reference).All fun n ↦ n.Formed ∧ n.NoTransform :=
    (formed.resolved reference).and (plain.resolved reference)
  have good : (Node.union place members).All fun n ↦ n.Formed ∧ n.NoTransform :=
    formed.root.and plain.root
  have okUnion : decodeAt references defaultMaxDepth defaultMaxDepth (.union place members) value =
    .ok decoded := ok
  obtain ⟨before, member, after, rfl, rejected, okMember⟩ := decodeAt_union.1 okUnion
  have goodMember (m : Node) (hm : m ∈ before ++ member :: after) := good.member hm
  have chosen : member ∈ before ++ member :: after := by simp
  have rejects (m : Node) (hm : m ∈ before) : accepts references m value = false := by
    rw [← Bool.not_eq_true, accepts_eq_true_iff]
    rintro ⟨d, okM⟩
    exact rejected m hm d okM
  have acceptsValue : accepts references member value = true :=
    accepts_eq_true_iff.2 ⟨decoded, okMember⟩
  have earlier : (before ++ member :: after).takeWhile (fun m ↦ !accepts references m value) =
      before := by
    rw [List.takeWhile_append_of_pos fun m hm ↦ by simp [rejects m hm],
      List.takeWhile_cons_of_neg (by simp [acceptsValue]), List.append_nil]
  rw [earlier, Schema.encode, encodeAt_union, List.find?_append]
  cases found : before.find? fun m ↦
      accepts references m (encodeAt references defaultMaxDepth m decoded) with
  | some m =>
    have hm := List.mem_of_find?_eq_some found
    have acceptsOwn := List.find?_some found
    have inMembers : m ∈ before ++ member :: after := by simp [hm]
    -- What an earlier member encodes and accepts cannot be the input, which it rejected.
    refine iff_of_false (fun equal ↦ ?_) fun none ↦ ?_
    · have accepted := (accepts_encodeAt_iff resolved (goodMember _ chosen) (goodMember m inMembers)
        (goodMember m inMembers) distinctKeys okMember equal).1 acceptsOwn
      simp [rejects m hm] at accepted
    · exact absurd acceptsOwn (by simpa [Schema.encode] using none m hm)
  | none =>
    have law := laws member chosen value decoded free distinctKeys okMember
    have acceptsOwn := (accepts_encodeAt_iff resolved (goodMember _ chosen) (goodMember _ chosen)
      (goodMember _ chosen) distinctKeys okMember law).2 acceptsValue
    refine iff_of_true ?_ fun m hm ↦ ?_
    · simp only [Option.none_or, List.find?_cons, acceptsOwn]
      exact law
    · have none := List.find?_eq_none.1 found m hm
      simpa [Schema.encode] using none

/-- An object with the key `a`. -/
def Node.narrow : Node := .struct none [("a", .string .plain)] .reject

/-- An object with the keys `a` and `b`. -/
def Node.wide : Node := .struct none [("a", .string .plain), ("b", .integer {})] .reject

private theorem all_narrow_wide {p : Node → Prop} (narrow : p .narrow) (wide : p .wide)
    (string : p (.string .plain)) (integer : p (.integer {})) :
    Node.narrow.All p ∧ Node.wide.All p := by
  simp_all [Node.narrow, Node.wide, Node.all_iff (.struct _ _ _), Node.all_iff (.string _),
    Node.all_iff (.integer _), Node.children, Entries.values]

private theorem formed_narrow_wide : Node.narrow.Formed ∧ Node.wide.Formed :=
  ⟨(by decide : ["a"].Nodup), (by decide : ["a", "b"].Nodup)⟩

private theorem roundTrips_narrow_wide :
    Schema.RoundTrips ⟨.narrow, []⟩ ∧ Schema.RoundTrips ⟨.wide, []⟩ := by
  obtain ⟨narrow, wide⟩ := all_narrow_wide (p := fun n ↦ n.Formed ∧ n.Reversible)
    ⟨formed_narrow_wide.1, trivial⟩ ⟨formed_narrow_wide.2, trivial⟩ ⟨trivial, trivial⟩
    ⟨trivial, trivial⟩
  have resolved : ∀ reference,
      (References.resolve [] reference).All fun n ↦ n.Formed ∧ n.Reversible :=
    References.resolve_induction (by simp) (.intro ⟨trivial, trivial⟩ (by simp [Node.children]))
  exact ⟨fun _ _ free formed ok ↦ encodeAt_decodeAt resolved narrow (Nat.le_refl _) free formed ok,
    fun _ _ free formed ok ↦ encodeAt_decodeAt resolved wide (Nat.le_refl _) free formed ok⟩

/-- With the wide member first, an object with the key `a` alone comes back: the wide member does
not accept what it encodes. -/
theorem Schema.encode_decode_wide_narrow :
    ∃ decoded, Schema.decode ⟨.union none [.wide, .narrow], []⟩ (.object [("a", .string "x")])
        = .ok decoded
      ∧ (Schema.encode ⟨.union none [.wide, .narrow], []⟩ decoded).same
        (.object [("a", .string "x")]) = true := by
  obtain ⟨narrow, wide⟩ := roundTrips_narrow_wide
  have all {p : Node → Prop} (null : p .null) (union : p (.union none [.wide, .narrow]))
      (narrow : p .narrow) (wide : p .wide) (string : p (.string .plain))
      (integer : p (.integer {})) : Schema.All p ⟨.union none [.wide, .narrow], []⟩ := by
    have members := all_narrow_wide narrow wide string integer
    refine ⟨.intro union (by simpa [Node.children] using members.symm), ?_⟩
    exact References.resolve_induction (by simp) (.intro null (by simp [Node.children]))
  have formed : Schema.All Node.Formed _ :=
    all trivial trivial formed_narrow_wide.1 formed_narrow_wide.2 trivial trivial
  have plain : Schema.All Node.NoTransform _ := all trivial trivial trivial trivial trivial trivial
  refine ⟨_, rfl, (Schema.union_encode_decode_iff formed plain (by simp [narrow, wide])
    (by simp [Value.SymbolFree, Value.SymbolFreeEntries])
    (by simp [Value.WellFormed, Value.WellFormedEntries, Entries.Distinct]) rfl).2 ?_⟩
  intro m member
  obtain rfl : m = .wide := List.mem_singleton.1 member
  rfl

/-- Though both of its members undo their own decoding, the union with the narrow member first loses
the key `b`. -/
theorem Schema.union_loses_key :
    (∀ m ∈ [Node.narrow, Node.wide], m.All Node.NoTransform ∧ Schema.RoundTrips ⟨m, []⟩)
      ∧ ∃ decoded,
        Schema.decode ⟨.union none [.narrow, .wide], []⟩
          (.object [("a", .string "x"), ("b", .number (.integer 1 (by decide)))]) = .ok decoded
        ∧ (Schema.encode ⟨.union none [.narrow, .wide], []⟩ decoded).same
          (.object [("a", .string "x"), ("b", .number (.integer 1 (by decide)))]) = false := by
  obtain ⟨narrow, wide⟩ := roundTrips_narrow_wide
  obtain ⟨plainNarrow, plainWide⟩ :=
    all_narrow_wide (p := Node.NoTransform) trivial trivial trivial trivial
  refine ⟨?_, _, rfl, rfl⟩
  simp [narrow, wide, plainNarrow, plainWide]

end Schemata
